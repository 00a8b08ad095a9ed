import QueryBridge.Proofs.Json.Parts
import QueryBridge.Proofs.Json.Text

/-!
# The tokens of a written value

A written value is cut into its tokens, however the document is laid out: blanks between the
tokens do not count, and no token reads into the next one.
-/

namespace QueryBridge.Json

/-! ## The tokens of a value -/

mutual

/-- The tokens with which a value is written. -/
def Value.tokens : Value → List Token
  | .array [] => [.openArray, .closeArray]
  | .array (item :: items) =>
      .openArray :: (item.tokens ++ (Value.itemTokens items ++ [.closeArray]))
  | .object [] => [.openObject, .closeObject]
  | .object ((name, value) :: fields) =>
      .openObject :: .scalar (.ofString name) :: .colon ::
        (value.tokens ++ (Value.fieldTokens fields ++ [.closeObject]))
  | value => [.scalar value]

/-- The tokens of the further items of an array. -/
def Value.itemTokens : List Value → List Token
  | [] => []
  | item :: items => .comma :: (item.tokens ++ Value.itemTokens items)

/-- The tokens of the further fields of an object. -/
def Value.fieldTokens : List (CodeString × Value) → List Token
  | [] => []
  | (name, value) :: fields =>
      .comma :: .scalar (.ofString name) :: .colon :: (value.tokens ++ Value.fieldTokens fields)

end

/-! ## Cutting a text into tokens -/

/-- A token begins with no space. -/
theorem Token.isSpace_of_next? {sign : Sign} {text : List Sign} {found : Token × List Sign}
    (h : next? (sign :: text) = some found) : isSpace sign = false := by
  cases sign with
  | surrogate code => rfl
  | char c =>
      by_contra hspace
      simp only [isSpace, Sign.satisfies, Bool.not_eq_false, Bool.or_eq_true, beq_iff_eq] at hspace
      have hnone : next? (.char c :: text) = none := by
        rcases hspace with ((rfl | rfl) | rfl) | rfl <;>
          simp [next?, plain?, Sign.satisfies, isPlain, word?, words,
            afterWord?, number?, unsigned?, wholePart?]
      rw [hnone] at h
      cases h

/-- The text begins with the tokens, and `rest` follows them. -/
inductive Lexes : List Sign → List Token → List Sign → Prop
  | stop (rest : List Sign) : Lexes rest [] rest
  | space {sign : Sign} {text : List Sign} {tokens : List Token} {rest : List Sign} :
      Token.isSpace sign = true → Lexes text tokens rest → Lexes (sign :: text) tokens rest
  | token {written after : List Sign} {token : Token} {tokens : List Token} {rest : List Sign} :
      written ≠ [] → Token.next? (written ++ after) = some (token, after) →
        Lexes after tokens rest → Lexes (written ++ after) (token :: tokens) rest

namespace Lexes

variable {text between rest : List Sign} {first second tokens : List Token}

theorem trans (hfirst : Lexes text first between) (hsecond : Lexes between second rest) :
    Lexes text (first ++ second) rest := by
  induction hfirst with
  | stop => exact hsecond
  | space hspace _ ih => exact .space hspace (ih hsecond)
  | token hne hnext _ ih => exact .token hne hnext (ih hsecond)

theorem spaces {blanks : List Sign} (hblanks : ∀ sign ∈ blanks, Token.isSpace sign = true)
    (h : Lexes text tokens rest) : Lexes (blanks ++ text) tokens rest := by
  induction blanks with
  | nil => exact h
  | cons c blanks ih =>
      obtain ⟨hc, hblanks⟩ := List.forall_mem_cons.mp hblanks
      exact .space hc (ih hblanks)

/-- A token that is one character. -/
theorem sign {sign : Sign} {token : Token}
    (hnext : Token.next? (sign :: text) = some (token, text)) (h : Lexes text tokens rest) :
    Lexes (sign :: text) (token :: tokens) rest :=
  .token (List.cons_ne_nil sign []) hnext h

theorem string (string : CodeString) (h : Lexes text tokens rest) :
    Lexes (writeString string ++ text) (.scalar (.ofString string) :: tokens) rest :=
  .token (List.cons_ne_nil _ _) (Token.next?_writeString string text) h

/-- Every token takes a character. -/
theorem length_le (h : Lexes text tokens rest) : tokens.length + rest.length ≤ text.length := by
  induction h with
  | stop => simp
  | space _ _ ih =>
      rw [List.length_cons]
      omega
  | token hne _ _ ih =>
      have hpos := List.length_pos_of_ne_nil hne
      rw [List.length_cons, List.length_append]
      omega

end Lexes

/-! ## Styles -/

/-- The separators are their signs, with blanks behind them. -/
structure Style.IsProper (style : Style) : Prop where
  comma : ∃ blanks, (∀ sign ∈ blanks, Token.isSpace sign = true) ∧
    style.comma = .char ',' :: blanks
  colon : ∃ blanks, (∀ sign ∈ blanks, Token.isSpace sign = true) ∧
    style.colon = .char ':' :: blanks

theorem Style.isProper_indented : Style.indented.IsProper :=
  ⟨⟨[], List.forall_mem_nil _, rfl⟩, ⟨[.char ' '], List.forall_mem_singleton.mpr rfl, rfl⟩⟩

theorem isSpace_of_mem_lineBreak {style : Style} {depth : Nat} {sign : Sign}
    (h : sign ∈ style.lineBreak depth) : Token.isSpace sign = true := by
  unfold Style.lineBreak at h
  split at h
  · cases h
  · obtain ⟨c, hc, rfl⟩ := List.mem_map.mp h
    rcases List.mem_cons.mp hc with rfl | hc
    · rfl
    · rw [(List.mem_replicate.mp hc).2]
      rfl

/-! ## What follows a value -/

section

open Token (EndsNumber)

variable {style : Style} {depth : Nat} {rest : List Sign}

theorem endsNumber_cons {c : Char} (h : c ∈ [',', ']', '}', '\n']) :
    EndsNumber (.char c :: rest) := by
  intro sign hsign
  cases hsign
  simp only [List.mem_cons, List.not_mem_nil, or_false] at h
  rcases h with rfl | rfl | rfl | rfl <;> rfl

theorem endsNumber_lineBreak (h : EndsNumber rest) :
    EndsNumber (style.lineBreak depth ++ rest) := by
  unfold Style.lineBreak
  split
  · exact h
  · exact endsNumber_cons (by decide)

theorem endsNumber_comma (hstyle : style.IsProper) : EndsNumber (style.comma ++ rest) := by
  obtain ⟨blanks, -, hcomma⟩ := hstyle.comma
  rw [hcomma]
  exact endsNumber_cons (by decide)

theorem endsNumber_writeItems (hstyle : style.IsProper) (items : List Value)
    (h : EndsNumber rest) : EndsNumber (Value.writeItems style depth items ++ rest) := by
  cases items with
  | nil => exact h
  | cons item items =>
      simp only [Value.writeItems, List.append_assoc]
      exact endsNumber_comma hstyle

theorem endsNumber_writeFields (hstyle : style.IsProper) (fields : List (CodeString × Value))
    (h : EndsNumber rest) : EndsNumber (Value.writeFields style depth fields ++ rest) := by
  cases fields with
  | nil => exact h
  | cons field fields =>
      simp only [Value.writeFields, List.append_assoc]
      exact endsNumber_comma hstyle

end

/-! ## Cutting a written value -/

theorem lexes_word {word : List Char} {value : Value} (hword : (word, value) ∈ Token.words)
    {rest : List Sign} (hrest : Token.EndsNumber rest) :
    Lexes (Sign.ofText word ++ rest) [.scalar value] rest := by
  simp only [Token.words, List.mem_cons, Prod.mk.injEq, List.not_mem_nil, or_false] at hword
  rcases hword with ⟨rfl, rfl⟩ | ⟨rfl, rfl⟩ | ⟨rfl, rfl⟩ | ⟨rfl, rfl⟩ | ⟨rfl, rfl⟩ | ⟨rfl, rfl⟩ <;>
    exact .token (List.cons_ne_nil _ _)
      (Token.next?_run (List.all_eq_true.mp rfl) rfl hrest) (.stop rest)

theorem Lexes.lineBreak {style : Style} {depth : Nat} {text rest : List Sign}
    {tokens : List Token} (h : Lexes text tokens rest) :
    Lexes (style.lineBreak depth ++ text) tokens rest :=
  h.spaces fun _ => isSpace_of_mem_lineBreak

theorem Lexes.comma {style : Style} (hstyle : style.IsProper) {text rest : List Sign}
    {tokens : List Token} (h : Lexes text tokens rest) :
    Lexes (style.comma ++ text) (.comma :: tokens) rest := by
  obtain ⟨blanks, hblanks, heq⟩ := hstyle.comma
  rw [heq]
  exact .sign rfl (h.spaces hblanks)

theorem Lexes.colon {style : Style} (hstyle : style.IsProper) {text rest : List Sign}
    {tokens : List Token} (h : Lexes text tokens rest) :
    Lexes (style.colon ++ text) (.colon :: tokens) rest := by
  obtain ⟨blanks, hblanks, heq⟩ := hstyle.colon
  rw [heq]
  exact .sign rfl (h.spaces hblanks)

variable {style : Style}

mutual

/-- A written value is cut into its tokens, whatever follows that is no part of a number. -/
theorem lexes_write (hstyle : style.IsProper) :
    ∀ (value : Value) (depth : Nat) {rest : List Sign},
      value.Everywhere Value.IsLegible → Token.EndsNumber rest →
        Lexes (value.write style depth ++ rest) value.tokens rest
  | .null, depth, rest, _, hrest => lexes_word (by simp [Token.words]) hrest
  | .bool true, depth, rest, _, hrest => lexes_word (by simp [Token.words]) hrest
  | .bool false, depth, rest, _, hrest => lexes_word (by simp [Token.words]) hrest
  | .int number, depth, rest, h, hrest =>
      .token (mt List.map_eq_nil_iff.mp (Token.toString_int_ne_nil number))
        (Token.next?_int h.self hrest) (.stop rest)
  | .float number, depth, rest, h, _ => h.self.elim
  | .text text, depth, rest, _, _ => .string text (.stop rest)
  | .brokenText text, depth, rest, _, _ => .string (.broken text) (.stop rest)
  | .array [], depth, rest, _, _ => .sign rfl (.sign rfl (.stop rest))
  | .array (item :: items), depth, rest, h, _ => by
      obtain ⟨hitem, hitems⟩ := List.forall_mem_cons.mp (Value.everywhere_array_iff.mp h).2
      have hend : Token.EndsNumber (style.lineBreak depth ++ Sign.char ']' :: rest) :=
        endsNumber_lineBreak (endsNumber_cons (by decide))
      have hclose : Lexes (style.lineBreak depth ++ Sign.char ']' :: rest) [.closeArray] rest :=
        Lexes.lineBreak (.sign rfl (.stop rest))
      have hothers := (lexes_writeItems hstyle items (depth + 1) hitems hend).trans hclose
      have hfirst := (lexes_write hstyle item (depth + 1) hitem
        (endsNumber_writeItems hstyle items hend)).trans hothers
      simp only [Value.write, Value.tokens, List.cons_append, List.append_assoc, List.nil_append]
      exact .sign rfl hfirst.lineBreak
  | .object [], depth, rest, _, _ => .sign rfl (.sign rfl (.stop rest))
  | .object ((name, value) :: fields), depth, rest, h, _ => by
      obtain ⟨hvalue, hfields⟩ := List.forall_mem_cons.mp (Value.everywhere_object_iff.mp h).2
      have hend : Token.EndsNumber (style.lineBreak depth ++ Sign.char '}' :: rest) :=
        endsNumber_lineBreak (endsNumber_cons (by decide))
      have hclose : Lexes (style.lineBreak depth ++ Sign.char '}' :: rest) [.closeObject] rest :=
        Lexes.lineBreak (.sign rfl (.stop rest))
      have hothers := (lexes_writeFields hstyle fields (depth + 1) hfields hend).trans hclose
      have hfirst := (lexes_write hstyle value (depth + 1) hvalue
        (endsNumber_writeFields hstyle fields hend)).trans hothers
      simp only [Value.write, Value.tokens, List.cons_append, List.append_assoc, List.nil_append]
      exact .sign rfl (Lexes.lineBreak (Lexes.string name (hfirst.colon hstyle)))

theorem lexes_writeItems (hstyle : style.IsProper) :
    ∀ (items : List Value) (depth : Nat) {rest : List Sign},
      (∀ item ∈ items, item.Everywhere Value.IsLegible) → Token.EndsNumber rest →
        Lexes (Value.writeItems style depth items ++ rest) (Value.itemTokens items) rest
  | [], depth, rest, _, _ => .stop rest
  | item :: items, depth, rest, h, hrest => by
      obtain ⟨hitem, hitems⟩ := List.forall_mem_cons.mp h
      have hothers := lexes_writeItems hstyle items depth hitems hrest
      have hfirst := (lexes_write hstyle item depth hitem
        (endsNumber_writeItems hstyle items hrest)).trans hothers
      simp only [Value.writeItems, Value.itemTokens, List.append_assoc]
      exact hfirst.lineBreak.comma hstyle

theorem lexes_writeFields (hstyle : style.IsProper) :
    ∀ (fields : List (CodeString × Value)) (depth : Nat) {rest : List Sign},
      (∀ field ∈ fields, field.2.Everywhere Value.IsLegible) → Token.EndsNumber rest →
        Lexes (Value.writeFields style depth fields ++ rest) (Value.fieldTokens fields) rest
  | [], depth, rest, _, _ => .stop rest
  | (name, value) :: fields, depth, rest, h, hrest => by
      obtain ⟨hvalue, hfields⟩ := List.forall_mem_cons.mp h
      have hothers := lexes_writeFields hstyle fields depth hfields hrest
      have hfirst := (lexes_write hstyle value depth hvalue
        (endsNumber_writeFields hstyle fields hrest)).trans hothers
      simp only [Value.writeFields, Value.fieldTokens, List.append_assoc]
      exact Lexes.comma hstyle (Lexes.lineBreak (Lexes.string name (hfirst.colon hstyle)))

end

end QueryBridge.Json
