import QueryBridge.Proofs.Json.Lexing

/-!
# Blanks and control characters of compact documents

A compact document has no blank outside its strings, because nothing stands between its tokens,
and no control character at all, because strings escape them.
-/

namespace QueryBridge.Json

/-- Where a document is read: outside its strings, in one of them, or there behind a backslash. -/
inductive Place where
  | outside
  | inside
  | escaped

/-- The signs of a document that lie outside its strings, if its beginning lies in the given
place. -/
def outsideFrom : Place → List Sign → List Sign
  | _, [] => []
  | .outside, sign :: rest =>
      if sign = .char '"' then outsideFrom .inside rest else sign :: outsideFrom .outside rest
  | .inside, sign :: rest =>
      if sign = .char '\\' then outsideFrom .escaped rest
      else if sign = .char '"' then outsideFrom .outside rest
      else outsideFrom .inside rest
  | .escaped, _ :: rest => outsideFrom .inside rest

/-- The signs of a document that lie outside its strings. -/
def outsideStrings (document : List Sign) : List Sign :=
  outsideFrom .outside document

theorem outsideFrom_append {signs : List Sign} (h : ∀ sign ∈ signs, sign ≠ .char '"')
    (rest : List Sign) :
    outsideFrom .outside (signs ++ rest) = signs ++ outsideFrom .outside rest := by
  induction signs with
  | nil => rfl
  | cons sign signs ih =>
      obtain ⟨hsign, hsigns⟩ := List.forall_mem_cons.mp h
      rw [List.cons_append, outsideFrom, if_neg hsign, ih hsigns, List.cons_append]

/-- A sign in a string that neither ends it nor begins an escape. -/
def Sign.IsPlain (sign : Sign) : Prop :=
  0x20 ≤ sign.code ∧ sign ≠ .char '"' ∧ sign ≠ .char '\\'

theorem outsideFrom_inside_append {signs : List Sign} (h : ∀ sign ∈ signs, sign.IsPlain)
    (rest : List Sign) : outsideFrom .inside (signs ++ rest) = outsideFrom .inside rest := by
  induction signs with
  | nil => rfl
  | cons sign signs ih =>
      obtain ⟨⟨-, hquote, hbackslash⟩, hsigns⟩ := List.forall_mem_cons.mp h
      rw [List.cons_append, outsideFrom, if_neg hbackslash, if_neg hquote, ih hsigns]

theorem le_of_shortEscape? {letter : Char} {code : Nat}
    (h : Token.shortEscape? letter = some code) : 0x20 ≤ letter.toNat := by
  unfold Token.shortEscape? at h
  split at h <;> first | decide | cases h

theorem isPlain_of_mem_hexDigits {code : Nat} (hcode : code < 0x10000) :
    ∀ digit ∈ Sign.ofText (Text.hexDigits 4 code), digit.IsPlain := by
  intro digit hdigit
  obtain ⟨c, hc, rfl⟩ := List.mem_map.mp hdigit
  have hunreserved := Text.Percent.isUnreserved_of_isSome_hexValue?
    (Text.isSome_hexValue?_of_mem_hexDigits hcode hc)
  have hne : ∀ d : Char, Text.Percent.isUnreserved d = false → Sign.char c ≠ .char d := by
    intro d hd hcd
    rw [Sign.char.inj hcd, hd] at hunreserved
    cases hunreserved
  exact ⟨(Text.Percent.toNat_of_isUnreserved hunreserved).1.le, hne '"' rfl, hne '\\' rfl⟩

/-- A code point of a string is written behind a backslash, by a letter or by its number, or it
stands as it is. -/
theorem escapeSign_cases (code : Nat) :
    (∃ letter : Sign, 0x20 ≤ letter.code ∧ escapeSign (.ofCode code) = [.char '\\', letter]) ∨
      (∃ digits : List Sign, (∀ digit ∈ digits, digit.IsPlain) ∧
        escapeSign (.ofCode code) = .char '\\' :: .char 'u' :: digits) ∨
      ∃ sign : Sign, sign.IsPlain ∧ escapeSign (.ofCode code) = [sign] := by
  unfold Sign.ofCode
  split
  · next hvalid =>
      obtain ⟨c, rfl⟩ := exists_char hvalid
      rw [Char.ofNat_toNat, escapeSign]
      rcases escapeChar_cases c with
        ⟨letter, hletter, heq⟩ | ⟨hcontrol, heq⟩ | ⟨hcontrol, hquote, hbackslash, heq⟩
      · rw [heq]
        exact Or.inl ⟨.char letter, le_of_shortEscape? hletter, rfl⟩
      · rw [heq]
        exact Or.inr (Or.inl ⟨_, isPlain_of_mem_hexDigits (by omega), rfl⟩)
      · rw [heq]
        refine Or.inr (Or.inr ⟨.char c, ⟨Nat.le_of_not_lt hcontrol, ?_, ?_⟩, rfl⟩)
        · exact fun h => hquote (Sign.char.inj h)
        · exact fun h => hbackslash (Sign.char.inj h)
  · next hbroken =>
      -- the numbers of control characters are all valid
      have hcontrol : 0x20 ≤ code := by
        by_contra hcontrol
        exact hbroken (Or.inl (by omega))
      exact Or.inr (Or.inr ⟨.surrogate code, ⟨hcontrol, Sign.noConfusion, Sign.noConfusion⟩, rfl⟩)

theorem outsideFrom_escapeSign (code : Nat) (rest : List Sign) :
    outsideFrom .inside (escapeSign (.ofCode code) ++ rest) = outsideFrom .inside rest := by
  rcases escapeSign_cases code with ⟨letter, -, heq⟩ | ⟨digits, hdigits, heq⟩ | ⟨sign, hplain, heq⟩
  · rw [heq]
    rfl
  · rw [heq]
    exact outsideFrom_inside_append hdigits rest
  · rw [heq]
    exact outsideFrom_inside_append (List.forall_mem_singleton.mpr hplain) rest

/-- A string leaves nothing outside. -/
theorem outsideFrom_writeString (string : CodeString) (rest : List Sign) :
    outsideFrom .outside (writeString string ++ rest) = outsideFrom .outside rest := by
  have hbody : ∀ (codes : List Nat) (after : List Sign),
      outsideFrom .inside ((codes.map Sign.ofCode).flatMap escapeSign ++ after) =
        outsideFrom .inside after := by
    intro codes after
    induction codes with
    | nil => rfl
    | cons code codes ih =>
        rw [List.map_cons, List.flatMap_cons, List.append_assoc, outsideFrom_escapeSign, ih]
  have hquoted : writeString string ++ rest =
      .char '"' :: ((string.codes.map Sign.ofCode).flatMap escapeSign ++ .char '"' :: rest) := by
    simp [writeString, Sign.ofString]
  rw [hquoted, outsideFrom, if_pos rfl, hbody]
  rfl

theorem le_of_mem_writeString {string : CodeString} :
    ∀ sign ∈ writeString string, 0x20 ≤ sign.code := by
  have hbody : ∀ sign ∈ (Sign.ofString string).flatMap escapeSign, 0x20 ≤ sign.code := by
    intro piece hpiece
    obtain ⟨sign, hsign, hpiece⟩ := List.mem_flatMap.mp hpiece
    obtain ⟨code, -, rfl⟩ := List.mem_map.mp hsign
    rcases escapeSign_cases code with
      ⟨letter, hletter, heq⟩ | ⟨digits, hdigits, heq⟩ | ⟨sign, hplain, heq⟩
    · rw [heq] at hpiece
      rcases List.mem_cons.mp hpiece with rfl | hpiece
      · decide
      · rw [List.mem_singleton.mp hpiece]
        exact hletter
    · rw [heq] at hpiece
      rcases List.mem_cons.mp hpiece with rfl | hpiece
      · decide
      rcases List.mem_cons.mp hpiece with rfl | hpiece
      · decide
      · exact (hdigits piece hpiece).1
    · rw [heq] at hpiece
      rw [List.mem_singleton.mp hpiece]
      exact hplain.1
  exact List.forall_mem_append.mpr
    ⟨List.forall_mem_cons.mpr ⟨by decide, hbody⟩, List.forall_mem_singleton.mpr (by decide)⟩

/-! ## Texts without blanks -/

/-- The sign counts as a blank. -/
def Sign.IsBlank (sign : Sign) : Prop :=
  Text.inRanges Text.blankRanges sign.code = true

/-- A part of a document that holds no control character and leaves no blank outside strings. -/
structure IsTight (part : List Sign) : Prop where
  visible : ∀ sign ∈ part, 0x20 ≤ sign.code
  outside : ∃ left : List Sign, (∀ sign ∈ left, ¬ sign.IsBlank) ∧
    ∀ rest, outsideFrom .outside (part ++ rest) = left ++ outsideFrom .outside rest

theorem IsTight.append {first second : List Sign} (hfirst : IsTight first)
    (hsecond : IsTight second) : IsTight (first ++ second) where
  visible := List.forall_mem_append.mpr ⟨hfirst.visible, hsecond.visible⟩
  outside := by
    obtain ⟨left, hleft, hfirst⟩ := hfirst.outside
    obtain ⟨right, hright, hsecond⟩ := hsecond.outside
    refine ⟨left ++ right, List.forall_mem_append.mpr ⟨hleft, hright⟩, fun rest => ?_⟩
    rw [List.append_assoc, hfirst, hsecond, List.append_assoc]

theorem isTight_nil : IsTight [] :=
  ⟨List.forall_mem_nil _, [], List.forall_mem_nil _, fun _ => rfl⟩

theorem isTight_writeString (string : CodeString) : IsTight (writeString string) :=
  ⟨le_of_mem_writeString, [], List.forall_mem_nil _, outsideFrom_writeString string⟩

theorem isTight_ofText {text : List Char}
    (h : ∀ c ∈ text, 0x20 < c.toNat ∧ c.toNat < 0x7F ∧ c ≠ '"') : IsTight (Sign.ofText text) := by
  have hsigns : ∀ sign ∈ Sign.ofText text,
      0x20 < sign.code ∧ sign.code < 0x7F ∧ sign ≠ .char '"' := by
    intro sign hsign
    obtain ⟨c, hc, rfl⟩ := List.mem_map.mp hsign
    obtain ⟨hlow, hhigh, hquote⟩ := h c hc
    exact ⟨hlow, hhigh, fun heq => hquote (Sign.char.inj heq)⟩
  refine ⟨fun sign hsign => (hsigns sign hsign).1.le, _, fun sign hsign => ?_,
    outsideFrom_append fun sign hsign => (hsigns sign hsign).2.2⟩
  obtain ⟨hlow, hhigh, -⟩ := hsigns sign hsign
  simp [Sign.IsBlank, Text.inRanges, Text.blankRanges]
  omega

theorem isTight_word {word : List Char}
    (h : (word.all fun c => 0x20 < c.toNat && c.toNat < 0x7F && c != '"') = true) :
    IsTight (Sign.ofText word) :=
  isTight_ofText fun c hc => by simpa [and_assoc] using List.all_eq_true.mp h c hc

theorem isTight_int (number : Int) : IsTight (Sign.ofText (toString number).toList) := by
  refine isTight_ofText fun c hc => ?_
  rcases Token.mem_toString_int hc with rfl | hdigit
  · decide
  · obtain ⟨hlow, hhigh⟩ := Text.Percent.isDigit_iff.mp hdigit
    refine ⟨by omega, by omega, ?_⟩
    rintro rfl
    cases hdigit

theorem isTight_sign {c : Char} (h : c ∈ ['[', ']', '{', '}', ',', ':']) :
    IsTight [.char c] := by
  refine show IsTight (Sign.ofText [c]) from isTight_ofText (List.forall_mem_singleton.mpr ?_)
  simp only [List.mem_cons, List.not_mem_nil, or_false] at h
  rcases h with rfl | rfl | rfl | rfl | rfl | rfl <;> decide

/-! ## Compact documents -/

mutual

theorem isTight_write : ∀ (value : Value) (depth : Nat), value.Everywhere Value.IsLegible →
    IsTight (value.write .compact depth)
  | .null, _, _ => isTight_word rfl
  | .bool true, _, _ => isTight_word rfl
  | .bool false, _, _ => isTight_word rfl
  | .int number, _, _ => isTight_int number
  | .float number, _, h => h.self.elim
  | .text text, _, _ => isTight_writeString text
  | .brokenText text, _, _ => isTight_writeString (.broken text)
  | .array [], _, _ => (isTight_sign (c := '[') (by decide)).append (isTight_sign (by decide))
  | .array (item :: items), depth, h => by
      obtain ⟨hitem, hitems⟩ := List.forall_mem_cons.mp (Value.everywhere_array_iff.mp h).2
      rw [Value.write]
      exact ((((isTight_sign (c := '[') (by decide)).append
        (isTight_write item (depth + 1) hitem)).append
        (isTight_writeItems items (depth + 1) hitems)).append isTight_nil).append
        (isTight_sign (by decide))
  | .object [], _, _ => (isTight_sign (c := '{') (by decide)).append (isTight_sign (by decide))
  | .object ((name, value) :: fields), depth, h => by
      obtain ⟨hvalue, hfields⟩ := List.forall_mem_cons.mp (Value.everywhere_object_iff.mp h).2
      rw [Value.write]
      exact ((((((isTight_sign (c := '{') (by decide)).append
        (isTight_writeString name)).append (isTight_sign (c := ':') (by decide))).append
        (isTight_write value (depth + 1) hvalue)).append
        (isTight_writeFields fields (depth + 1) hfields)).append isTight_nil).append
        (isTight_sign (by decide))

theorem isTight_writeItems : ∀ (items : List Value) (depth : Nat),
    (∀ item ∈ items, item.Everywhere Value.IsLegible) →
      IsTight (Value.writeItems .compact depth items)
  | [], _, _ => isTight_nil
  | item :: items, depth, h => by
      obtain ⟨hitem, hitems⟩ := List.forall_mem_cons.mp h
      rw [Value.writeItems]
      exact (((isTight_sign (c := ',') (by decide)).append isTight_nil).append
        (isTight_write item depth hitem)).append (isTight_writeItems items depth hitems)

theorem isTight_writeFields : ∀ (fields : List (CodeString × Value)) (depth : Nat),
    (∀ field ∈ fields, field.2.Everywhere Value.IsLegible) →
      IsTight (Value.writeFields .compact depth fields)
  | [], _, _ => isTight_nil
  | (name, value) :: fields, depth, h => by
      obtain ⟨hvalue, hfields⟩ := List.forall_mem_cons.mp h
      rw [Value.writeFields]
      exact (((((isTight_sign (c := ',') (by decide)).append isTight_nil).append
        (isTight_writeString name)).append (isTight_sign (c := ':') (by decide))).append
        (isTight_write value depth hvalue)).append (isTight_writeFields fields depth hfields)

end

/-- A document without blanks between its parts has none outside its strings. -/
theorem IsTight.not_isBlank {document : List Sign} (h : IsTight document) :
    ∀ sign ∈ outsideStrings document, ¬ sign.IsBlank := by
  obtain ⟨left, hleft, houtside⟩ := h.outside
  have hdocument := houtside []
  rw [List.append_nil] at hdocument
  have hrest : outsideFrom .outside [] = [] := rfl
  rw [outsideStrings, hdocument, hrest, List.append_nil]
  exact hleft

end QueryBridge.Json
