import QueryBridge.Json.Token
import QueryBridge.Json.Writer
import QueryBridge.Proofs.Text.CodeString
import QueryBridge.Proofs.Text.Digits

/-!
# Strings in documents

Each code point of a string is read as it is written.  Surrogates are written as they are, and
what is not spelled by an escape is never joined, so the string is read back whatever it holds.
-/

namespace QueryBridge.Json

/-! ## How a character is written -/

/-- A character is written behind a backslash, by a letter or by its number, or as it is. -/
theorem escapeChar_cases (c : Char) :
    (∃ letter, Token.shortEscape? letter = some c.toNat ∧ escapeChar c = ['\\', letter]) ∨
      (c.toNat < 0x20 ∧ escapeChar c = '\\' :: 'u' :: Text.hexDigits 4 c.toNat) ∨
      (¬ c.toNat < 0x20 ∧ c ≠ '"' ∧ c ≠ '\\' ∧ escapeChar c = [c]) := by
  unfold escapeChar
  split_ifs with hquote hbackslash hfeed hreturn htab hpage hback hcontrol
  · exact Or.inl ⟨'"', by rw [hquote]; rfl, rfl⟩
  · exact Or.inl ⟨'\\', by rw [hbackslash]; rfl, rfl⟩
  · exact Or.inl ⟨'n', by rw [hfeed]; rfl, rfl⟩
  · exact Or.inl ⟨'r', by rw [hreturn]; rfl, rfl⟩
  · exact Or.inl ⟨'t', by rw [htab]; rfl, rfl⟩
  · exact Or.inl ⟨'f', by rw [hpage]; rfl, rfl⟩
  · exact Or.inl ⟨'b', by rw [hback]; rfl, rfl⟩
  · exact Or.inr (Or.inl ⟨hcontrol, rfl⟩)
  · exact Or.inr (Or.inr ⟨hcontrol, hquote, hbackslash, rfl⟩)

/-! ## How it is read -/

namespace Token

variable {rest : List Sign}

theorem stringUnits?_letter {letter : Char} {code : Nat} (h : shortEscape? letter = some code) :
    stringUnits? (.char '\\' :: .char letter :: rest) =
      (stringUnits? rest).map fun found => ((code, false) :: found.1, found.2) := by
  have hletter : letter ≠ 'u' := by
    rintro rfl
    cases h
  rw [stringUnits?.eq_3 _ _ fun _ _ _ _ _ _ hu => hletter hu, h]
  cases stringUnits? rest <;> rfl

theorem hexCode?_hexDigits {code : Nat} (hcode : code < 0x10000) :
    ∃ a b c d, Text.hexDigits 4 code = [a, b, c, d] ∧ hexCode? a b c d = some code := by
  refine ⟨_, _, _, _, Text.hexDigits_four hcode, ?_⟩
  have hvalue : ((code / 16 / 16 / 16 * 16 + code / 16 / 16 % 16) * 16 + code / 16 % 16) * 16 +
      code % 16 = code := by omega
  simp only [hexCode?, Option.bind_eq_bind, Text.hexValue?_digitChar (n := code / 16 / 16 / 16)
    (by omega), Text.hexValue?_digitChar (Nat.mod_lt _ (by decide : 0 < 16)), Option.bind_some,
    hvalue]
  rfl

theorem stringUnits?_number {code : Nat} (hcode : code < 0x10000) :
    stringUnits? (Sign.ofText ('\\' :: 'u' :: Text.hexDigits 4 code) ++ rest) =
      (stringUnits? rest).map fun found => ((code, true) :: found.1, found.2) := by
  obtain ⟨a, b, c, d, hdigits, hcode⟩ := hexCode?_hexDigits hcode
  rw [hdigits]
  show stringUnits? (.char '\\' :: .char 'u' :: .char a :: .char b :: .char c :: .char d ::
    rest) = _
  rw [stringUnits?, hcode]
  cases stringUnits? rest <;> rfl

theorem stringUnits?_plain (sign : Sign) (hcontrol : ¬ sign.code < 0x20)
    (hquote : sign ≠ .char '"') (hbackslash : sign ≠ .char '\\') :
    stringUnits? (sign :: rest) =
      (stringUnits? rest).map fun found => ((sign.code, false) :: found.1, found.2) := by
  rw [stringUnits?.eq_5 _ _ hquote (fun _ _ _ _ _ h _ => hbackslash h)
    (fun _ _ h _ => hbackslash h) hbackslash, if_neg hcontrol]

/-- A written code point is read as one unit, and only a character is spelled by an escape. -/
theorem stringUnits?_escapeSign_append (code : Nat) :
    ∃ escaped, (escaped = true → code.isValidChar) ∧ ∀ rest,
      stringUnits? (escapeSign (.ofCode code) ++ rest) =
        (stringUnits? rest).map fun found => ((code, escaped) :: found.1, found.2) := by
  unfold Sign.ofCode
  split
  · next hvalid =>
      obtain ⟨c, rfl⟩ := exists_char hvalid
      rw [Char.ofNat_toNat, escapeSign]
      rcases escapeChar_cases c with
        ⟨letter, hletter, heq⟩ | ⟨hcontrol, heq⟩ | ⟨hcontrol, hquote, hbackslash, heq⟩
      · rw [heq]
        exact ⟨false, nofun, fun rest => stringUnits?_letter hletter⟩
      · rw [heq]
        exact ⟨true, fun _ => hvalid, fun rest => stringUnits?_number (by omega)⟩
      · rw [heq]
        refine ⟨false, nofun, fun rest => stringUnits?_plain (.char c) hcontrol ?_ ?_⟩
        · exact fun h => hquote (Sign.char.inj h)
        · exact fun h => hbackslash (Sign.char.inj h)
  · next hbroken =>
      have hcontrol : ¬ code < 0x20 := fun h => hbroken (Or.inl (by omega))
      exact ⟨false, nofun, fun rest => stringUnits?_plain (.surrogate code) hcontrol
        nofun nofun⟩

/-! ## Whole strings -/

theorem isHighSurrogate_of_isValidChar {code : Nat} (h : code.isValidChar) :
    isHighSurrogate code = false := by
  simp only [isHighSurrogate, Bool.and_eq_false_iff, decide_eq_false_iff_not]
  rcases h with h | h <;> omega

/-- Nothing is joined where escapes spell characters only. -/
theorem joinUnits_of_isValidChar {units : List Unit16}
    (h : ∀ unit ∈ units, unit.2 = true → unit.1.isValidChar) :
    joinUnits units = units.map Prod.fst := by
  fun_induction joinUnits units with
  | case1 high low rest hpair ih =>
      rw [isHighSurrogate_of_isValidChar (h (high, true) List.mem_cons_self rfl)] at hpair
      cases hpair
  | case2 high low rest hpair ih =>
      rw [ih (List.forall_mem_cons.mp h).2]
      rfl
  | case3 unit rest hshape ih =>
      rw [ih (List.forall_mem_cons.mp h).2]
      rfl
  | case4 => rfl

theorem stringUnits?_flatMap_append (codes : List Nat) (rest : List Sign) :
    ∃ units, (∀ unit ∈ units, unit.2 = true → unit.1.isValidChar) ∧
      units.map Prod.fst = codes ∧
      stringUnits? ((codes.map Sign.ofCode).flatMap escapeSign ++ .char '"' :: rest) =
        some (units, rest) := by
  induction codes with
  | nil => exact ⟨[], List.forall_mem_nil _, rfl, rfl⟩
  | cons code codes ih =>
      obtain ⟨units, hescaped, hunits, hread⟩ := ih
      obtain ⟨escaped, hvalid, hwritten⟩ := stringUnits?_escapeSign_append code
      refine ⟨(code, escaped) :: units, List.forall_mem_cons.mpr ⟨hvalid, hescaped⟩, ?_, ?_⟩
      · rw [List.map_cons, hunits]
      · rw [List.map_cons, List.flatMap_cons, List.append_assoc, hwritten, hread]
        rfl

/-- A string is read as it is written, whatever follows. -/
theorem next?_writeString (string : CodeString) (rest : List Sign) :
    next? (writeString string ++ rest) = some (.scalar (.ofString string), rest) := by
  obtain ⟨units, hescaped, hunits, hread⟩ := stringUnits?_flatMap_append string.codes rest
  have hwritten : writeString string ++ rest =
      .char '"' :: ((string.codes.map Sign.ofCode).flatMap escapeSign ++ .char '"' :: rest) := by
    simp [writeString, Sign.ofString]
  rw [hwritten, next?, hread, Option.map_some, joinUnits_of_isValidChar hescaped, hunits,
    CodeString.ofCodes_codes]

end Token

end QueryBridge.Json
