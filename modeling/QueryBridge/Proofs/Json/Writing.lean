import QueryBridge.Proofs.Json.RoundTrip

/-!
# Documents as strings

A document is a string of code points, and if all strings in its value are texts, it is a text.
So what is written can be kept as a string and read again.
-/

namespace QueryBridge.Json

/-! ## The signs of a document -/

/-- The signs are characters, or such as a string can hold if they need not make a text. -/
def AreKept (areTexts : Bool) (signs : List Sign) : Prop :=
  ∀ sign ∈ signs, (∃ c, sign = .char c) ∨ (areTexts = false ∧ Sign.ofCode sign.code = sign)

namespace AreKept

variable {areTexts others : Bool} {first second : List Sign}

theorem append (hfirst : AreKept areTexts first) (hsecond : AreKept areTexts second) :
    AreKept areTexts (first ++ second) :=
  List.forall_mem_append.mpr ⟨hfirst, hsecond⟩

theorem weaken (h : AreKept areTexts first) (hothers : others = true → areTexts = true) :
    AreKept others first := fun sign hsign =>
  (h sign hsign).imp_right fun ⟨hbroken, hsign⟩ => by
    refine ⟨Bool.eq_false_iff.mpr fun htexts => ?_, hsign⟩
    rw [hothers htexts] at hbroken
    cases hbroken

theorem nil : AreKept areTexts [] :=
  List.forall_mem_nil _

theorem ofText (text : List Char) : AreKept areTexts (Sign.ofText text) := by
  intro sign hsign
  obtain ⟨c, -, rfl⟩ := List.mem_map.mp hsign
  exact Or.inl ⟨c, rfl⟩

theorem char (c : Char) : AreKept areTexts [.char c] :=
  ofText [c]

theorem spaces {signs : List Sign} (h : ∀ sign ∈ signs, Token.isSpace sign = true) :
    AreKept areTexts signs := by
  intro sign hsign
  cases sign with
  | char c => exact Or.inl ⟨c, rfl⟩
  | surrogate code => cases h _ hsign

theorem cons_spaces (c : Char) {signs : List Sign}
    (h : ∀ sign ∈ signs, Token.isSpace sign = true) : AreKept areTexts (.char c :: signs) :=
  (char c).append (spaces h)

theorem writeString (string : CodeString) :
    AreKept string.text?.isSome (Json.writeString string) := by
  have hbody : AreKept string.text?.isSome ((Sign.ofString string).flatMap escapeSign) := by
    intro piece hpiece
    obtain ⟨sign, hsign, hpiece⟩ := List.mem_flatMap.mp hpiece
    cases string with
    | text value =>
        rw [Sign.ofString_text] at hsign
        obtain ⟨c, -, rfl⟩ := List.mem_map.mp hsign
        exact ofText (escapeChar c) piece hpiece
    | broken value =>
        -- the characters are escaped as in a text, a surrogate is left as it is
        obtain ⟨code, -, rfl⟩ := List.mem_map.mp hsign
        cases hcode : Sign.ofCode code with
        | char c =>
            rw [hcode] at hpiece
            exact ofText (escapeChar c) piece hpiece
        | surrogate other =>
            rw [hcode] at hpiece
            rw [List.mem_singleton.mp hpiece, ← hcode, Sign.code_ofCode]
            exact Or.inr ⟨rfl, rfl⟩
  exact ((char '"').append hbody).append (char '"')

end AreKept

section

variable {style : Style}

theorem areKept_lineBreak {areTexts : Bool} (style : Style) (depth : Nat) :
    AreKept areTexts (style.lineBreak depth) :=
  .spaces fun _ => isSpace_of_mem_lineBreak

theorem areKept_comma {areTexts : Bool} (hstyle : style.IsProper) :
    AreKept areTexts style.comma := by
  obtain ⟨blanks, hblanks, heq⟩ := hstyle.comma
  rw [heq]
  exact .cons_spaces ',' hblanks

theorem areKept_colon {areTexts : Bool} (hstyle : style.IsProper) :
    AreKept areTexts style.colon := by
  obtain ⟨blanks, hblanks, heq⟩ := hstyle.colon
  rw [heq]
  exact .cons_spaces ':' hblanks

mutual

/-- A surrogate in a document comes from a string that is no text. -/
theorem areKept_write (hstyle : style.IsProper) : ∀ (value : Value) (depth : Nat),
    AreKept value.isWellFormed (value.write style depth)
  | .null, _ => .ofText _
  | .bool true, _ => .ofText _
  | .bool false, _ => .ofText _
  | .int _, _ => .ofText _
  | .float _, _ => .ofText _
  | .text text, _ => .writeString text
  | .brokenText text, _ => .writeString (.broken text)
  | .array [], _ => .ofText ['[', ']']
  | .array (item :: items), depth => by
      have hwell : (Value.array (item :: items)).isWellFormed = true →
          item.isWellFormed = true ∧ Value.areWellFormed items = true := Bool.and_eq_true_iff.mp
      have hitem := (areKept_write hstyle item (depth + 1)).weaken fun h => (hwell h).1
      have hitems := (areKept_writeItems hstyle items (depth + 1)).weaken fun h => (hwell h).2
      rw [Value.write]
      exact (((((AreKept.char '[').append (areKept_lineBreak style _)).append hitem).append
        hitems).append (areKept_lineBreak style _)).append (.char ']')
  | .object [], _ => .ofText ['{', '}']
  | .object ((name, value) :: fields), depth => by
      have hwell : (Value.object ((name, value) :: fields)).isWellFormed = true →
          (name.text?.isSome = true ∧ value.isWellFormed = true) ∧
            Value.haveWellFormed fields = true := fun h =>
        (Bool.and_eq_true_iff.mp h).imp_left Bool.and_eq_true_iff.mp
      have hname := (AreKept.writeString name).weaken fun h => (hwell h).1.1
      have hvalue := (areKept_write hstyle value (depth + 1)).weaken fun h => (hwell h).1.2
      have hfields := (areKept_writeFields hstyle fields (depth + 1)).weaken fun h => (hwell h).2
      rw [Value.write]
      exact (((((((AreKept.char '{').append (areKept_lineBreak style _)).append hname).append
        (areKept_colon hstyle)).append hvalue).append hfields).append
        (areKept_lineBreak style _)).append (.char '}')

theorem areKept_writeItems (hstyle : style.IsProper) : ∀ (items : List Value) (depth : Nat),
    AreKept (Value.areWellFormed items) (Value.writeItems style depth items)
  | [], _ => .nil
  | item :: items, depth => by
      have hwell : Value.areWellFormed (item :: items) = true →
          item.isWellFormed = true ∧ Value.areWellFormed items = true := Bool.and_eq_true_iff.mp
      have hitem := (areKept_write hstyle item depth).weaken fun h => (hwell h).1
      have hitems := (areKept_writeItems hstyle items depth).weaken fun h => (hwell h).2
      rw [Value.writeItems]
      exact (((areKept_comma hstyle).append (areKept_lineBreak style _)).append hitem).append
        hitems

theorem areKept_writeFields (hstyle : style.IsProper) :
    ∀ (fields : List (CodeString × Value)) (depth : Nat),
      AreKept (Value.haveWellFormed fields) (Value.writeFields style depth fields)
  | [], _ => .nil
  | (name, value) :: fields, depth => by
      have hwell : Value.haveWellFormed ((name, value) :: fields) = true →
          (name.text?.isSome = true ∧ value.isWellFormed = true) ∧
            Value.haveWellFormed fields = true := fun h =>
        (Bool.and_eq_true_iff.mp h).imp_left Bool.and_eq_true_iff.mp
      have hname := (AreKept.writeString name).weaken fun h => (hwell h).1.1
      have hvalue := (areKept_write hstyle value depth).weaken fun h => (hwell h).1.2
      have hfields := (areKept_writeFields hstyle fields depth).weaken fun h => (hwell h).2
      rw [Value.writeFields]
      exact (((((areKept_comma hstyle).append (areKept_lineBreak style _)).append hname).append
        (areKept_colon hstyle)).append hvalue).append hfields

end

end

/-! ## Documents that are kept -/

theorem Style.isProper_compact : Style.compact.IsProper :=
  ⟨⟨[], List.forall_mem_nil _, rfl⟩, ⟨[], List.forall_mem_nil _, rfl⟩⟩

/-- The string of a compact document has the signs of the document. -/
theorem ofString_compact (value : Value) :
    Sign.ofString value.compact = value.write .compact 0 := by
  rw [Value.compact, Sign.ofString, CodeString.codes_ofCodes, List.map_map]
  conv_rhs => rw [← List.map_id (value.write .compact 0)]
  refine List.map_congr_left fun sign hsign => ?_
  rcases areKept_write Style.isProper_compact value 0 sign hsign with ⟨c, rfl⟩ | ⟨-, hsign⟩
  · exact Sign.ofCode_toNat c
  · exact hsign

/-- The text of a document has its signs, if all strings in the value are texts. -/
theorem ofText_render {style : Style} (hstyle : style.IsProper) {value : Value}
    (hwell : value.isWellFormed = true) :
    Sign.ofText (value.render style).toList = value.write style 0 := by
  have hsigns : ∀ signs, AreKept true signs →
      Sign.ofText (signs.flatMap Sign.spell) = signs := by
    intro signs hsigns
    induction signs with
    | nil => rfl
    | cons sign signs ih =>
        obtain ⟨hsign, hothers⟩ := List.forall_mem_cons.mp hsigns
        obtain ⟨c, rfl⟩ := hsign.resolve_right fun h => Bool.noConfusion h.1
        rw [List.flatMap_cons, Sign.spell, List.singleton_append, Sign.ofText, List.map_cons]
        exact congrArg _ (ih hothers)
  rw [Value.render, String.toList_ofList]
  exact hsigns _ (hwell ▸ areKept_write hstyle value 0)

/-! ## Depth -/

mutual

/-- Every array and object of a value is opened by a token of its own. -/
theorem depth_le_length_tokens : ∀ value : Value, value.depth ≤ value.tokens.length
  | .null | .bool _ | .int _ | .float _ | .text _ | .brokenText _ => Nat.zero_le _
  | .array [] => by decide
  | .array (item :: items) => by
      have hitem := depth_le_length_tokens item
      have hitems := depthOfItems_le_length_tokens items
      simp only [Value.depth, Value.depthOfItems, Value.tokens, List.length_cons,
        List.length_append]
      omega
  | .object [] => by decide
  | .object ((name, value) :: fields) => by
      have hvalue := depth_le_length_tokens value
      have hfields := depthOfFields_le_length_tokens fields
      simp only [Value.depth, Value.depthOfFields, Value.tokens, List.length_cons,
        List.length_append]
      omega

theorem depthOfItems_le_length_tokens : ∀ items : List Value,
    Value.depthOfItems items ≤ (Value.itemTokens items).length
  | [] => Nat.zero_le _
  | item :: items => by
      have hitem := depth_le_length_tokens item
      have hitems := depthOfItems_le_length_tokens items
      simp only [Value.depthOfItems, Value.itemTokens, List.length_cons, List.length_append]
      omega

theorem depthOfFields_le_length_tokens : ∀ fields : List (CodeString × Value),
    Value.depthOfFields fields ≤ (Value.fieldTokens fields).length
  | [] => Nat.zero_le _
  | (name, value) :: fields => by
      have hvalue := depth_le_length_tokens value
      have hfields := depthOfFields_le_length_tokens fields
      simp only [Value.depthOfFields, Value.fieldTokens, List.length_cons, List.length_append]
      omega

end

/-- The text of a value is read as the value, however it is laid out. -/
theorem read?_render {style : Style} (hstyle : style.IsProper) {value : Value}
    (h : value.Everywhere Value.IsLegible) (hwell : value.isWellFormed = true) :
    read? (value.render style) = some value := by
  have hlexes : Lexes (value.write style 0 ++ []) value.tokens [] :=
    lexes_write hstyle value 0 h nofun
  -- the reader admits as many levels as the text has characters
  have hdepth : value.depth ≤ (value.render style).length := by
    have htokens := hlexes.length_le
    have hvalue := depth_le_length_tokens value
    rw [List.append_nil, ← ofText_render hstyle hwell, Sign.ofText, List.length_map] at htokens
    rw [← String.length_toList]
    omega
  rw [read?, ofText_render hstyle hwell, read_write hstyle h, if_pos hdepth]
  rfl

end QueryBridge.Json
