import QueryBridge.Proofs.Text.Split
import QueryBridge.Text.Blank
import QueryBridge.Text.Percent

/-!
# Percent-encoded texts

An encoded text holds the safe characters of the given text, percent signs and hexadecimal
digits, and nothing else.  Its bytes are read back from it, as long as the percent sign itself
is encoded.
-/

namespace QueryBridge.Text.Percent

theorem hexValue?_hexDigit {n : Nat} (hn : n < 16) : hexValue? (hexDigit n) = some n := by
  have hall : ∀ m : Fin 16, hexValue? (hexDigit m) = some m.val := by decide
  exact hall ⟨n, hn⟩

theorem isSome_hexValue?_hexDigit {n : Nat} (hn : n < 16) : (hexValue? (hexDigit n)).isSome := by
  rw [hexValue?_hexDigit hn]
  rfl

theorem mem_encodeByte {b : UInt8} {c : Char} (hc : c ∈ encodeByte b) :
    c = '%' ∨ (hexValue? c).isSome := by
  have hb : b.toNat < 256 := b.toNat_lt
  simp only [encodeByte, List.mem_cons, List.not_mem_nil, or_false] at hc
  rcases hc with rfl | rfl | rfl
  · exact Or.inl rfl
  · exact Or.inr (isSome_hexValue?_hexDigit (by omega))
  · exact Or.inr (isSome_hexValue?_hexDigit (by omega))

theorem mem_encodeExcept {isSafe : Char → Bool} {text : List Char} {c : Char}
    (hc : c ∈ encodeExcept isSafe text) :
    (c ∈ text ∧ isSafe c) ∨ c = '%' ∨ (hexValue? c).isSome := by
  rw [encodeExcept, List.mem_flatMap] at hc
  obtain ⟨d, hd, hc⟩ := hc
  split at hc
  · next hsafe =>
      rw [List.mem_singleton] at hc
      subst hc
      exact Or.inl ⟨hd, hsafe⟩
  · obtain ⟨b, -, hb⟩ := List.mem_flatMap.mp hc
    exact Or.inr (mem_encodeByte hb)

/-- A character that is not safe, or not in the text, is not in its encoding either. -/
theorem not_mem_encodeExcept {isSafe : Char → Bool} {text : List Char} {c : Char}
    (hsafe : c ∉ text ∨ isSafe c = false) (hpercent : c ≠ '%') (hhex : hexValue? c = none) :
    c ∉ encodeExcept isSafe text := by
  intro hc
  rcases mem_encodeExcept hc with ⟨hmem, hc⟩ | hc | hc
  · rcases hsafe with h | h
    · exact h hmem
    · rw [h] at hc
      cases hc
  · exact hpercent hc
  · rw [hhex] at hc
    cases hc

theorem encodeExcept_cons (isSafe : Char → Bool) (c : Char) (text : List Char) :
    encodeExcept isSafe (c :: text) =
      (if isSafe c then [c] else (String.utf8EncodeChar c).flatMap encodeByte) ++
        encodeExcept isSafe text :=
  List.flatMap_cons

theorem encodeExcept_append (isSafe : Char → Bool) (first second : List Char) :
    encodeExcept isSafe (first ++ second) =
      encodeExcept isSafe first ++ encodeExcept isSafe second :=
  List.flatMap_append

theorem encodeExcept_cons_of_isSafe {isSafe : Char → Bool} {c : Char} (hc : isSafe c = true)
    (text : List Char) : encodeExcept isSafe (c :: text) = c :: encodeExcept isSafe text := by
  rw [encodeExcept_cons, if_pos hc, List.singleton_append]

theorem encodeExcept_of_isSafe {isSafe : Char → Bool} {text : List Char}
    (h : ∀ c ∈ text, isSafe c = true) : encodeExcept isSafe text = text := by
  induction text with
  | nil => rfl
  | cons c text ih =>
      obtain ⟨hc, htext⟩ := List.forall_mem_cons.mp h
      rw [encodeExcept_cons_of_isSafe hc, ih htext]

theorem length_le_length_encodeExcept (isSafe : Char → Bool) (text : List Char) :
    text.length ≤ (encodeExcept isSafe text).length := by
  induction text with
  | nil => exact Nat.le_refl _
  | cons c text ih =>
      have hc : 0 < (if isSafe c then [c] else
          (String.utf8EncodeChar c).flatMap encodeByte).length := by
        split
        · exact Nat.one_pos
        · obtain ⟨byte, bytes, hbytes⟩ :=
            List.exists_cons_of_ne_nil (@String.utf8EncodeChar_ne_nil c)
          rw [hbytes, List.flatMap_cons, List.length_append]
          exact Nat.lt_of_lt_of_le (by decide : 0 < 3) (Nat.le_add_right 3 _)
      rw [encodeExcept_cons, List.length_append, List.length_cons]
      omega

/-- Where nothing had to be encoded, there is no percent sign. -/
theorem encodeExcept_of_not_mem_percent {isSafe : Char → Bool} {text : List Char}
    (h : '%' ∉ encodeExcept isSafe text) : encodeExcept isSafe text = text := by
  refine encodeExcept_of_isSafe fun c hc => ?_
  by_contra hunsafe
  obtain ⟨byte, bytes, hbytes⟩ := List.exists_cons_of_ne_nil (@String.utf8EncodeChar_ne_nil c)
  refine h (List.mem_flatMap.mpr ⟨c, hc, ?_⟩)
  rw [if_neg hunsafe, hbytes]
  exact List.mem_append_left _ List.mem_cons_self

/-- Encoding does not move the separators of a text. -/
theorem splitOn_encodeExcept {isSafe : Char → Bool} {separator : Char}
    (hsafe : isSafe separator = true) (hpercent : separator ≠ '%')
    (hhex : hexValue? separator = none) (text : List Char) :
    splitOn separator (encodeExcept isSafe text) =
      (splitOn separator text).map (encodeExcept isSafe) := by
  induction text using induction_on_parts separator with
  | single first hfirst =>
      have hencoded : separator ∉ encodeExcept isSafe first :=
        not_mem_encodeExcept (Or.inl hfirst) hpercent hhex
      rw [splitOn_of_not_mem hfirst, splitOn_of_not_mem hencoded]
      rfl
  | more first rest hfirst ih =>
      have hencoded : separator ∉ encodeExcept isSafe first :=
        not_mem_encodeExcept (Or.inl hfirst) hpercent hhex
      rw [encodeExcept_append, encodeExcept_cons_of_isSafe hsafe, splitOn_append_cons hencoded,
        splitOn_append_cons hfirst, ih, List.map_cons]

/-! ## Unreserved characters -/

theorem between_iff {first last c : Char} :
    (first ≤ c && c ≤ last) = true ↔ first.toNat ≤ c.toNat ∧ c.toNat ≤ last.toNat := by
  rw [Bool.and_eq_true, decide_eq_true_iff, decide_eq_true_iff]
  exact Iff.rfl

theorem isDigit_iff {c : Char} : c.isDigit = true ↔ 48 ≤ c.toNat ∧ c.toNat ≤ 57 :=
  between_iff

theorem isAlphanum_iff {c : Char} : c.isAlphanum = true ↔
    (65 ≤ c.toNat ∧ c.toNat ≤ 90 ∨ 97 ≤ c.toNat ∧ c.toNat ≤ 122) ∨
      48 ≤ c.toNat ∧ c.toNat ≤ 57 := by
  have hupper : c.isUpper = true ↔ 65 ≤ c.toNat ∧ c.toNat ≤ 90 := decide_eq_true_iff
  have hlower : c.isLower = true ↔ 97 ≤ c.toNat ∧ c.toNat ≤ 122 := between_iff
  rw [← hupper, ← hlower, ← isDigit_iff, ← Bool.or_eq_true, ← Bool.or_eq_true]
  exact Iff.rfl

theorem isUnreserved_of_isSome_hexValue? {c : Char} (h : (hexValue? c).isSome = true) :
    isUnreserved c = true := by
  have halphanum : c.isAlphanum = true := by
    rw [isAlphanum_iff]
    unfold hexValue? at h
    split at h
    · next hdigit => exact Or.inr (isDigit_iff.mp hdigit)
    split at h
    · next hsmall =>
        have hrange : 97 ≤ c.toNat ∧ c.toNat ≤ 102 := between_iff.mp hsmall
        omega
    split at h
    · next hcapital =>
        have hrange : 65 ≤ c.toNat ∧ c.toNat ≤ 70 := between_iff.mp hcapital
        omega
    · cases h
  unfold isUnreserved
  rw [halphanum]
  rfl

theorem toNat_of_isUnreserved {c : Char} (h : isUnreserved c = true) :
    0x20 < c.toNat ∧ c.toNat < 0x7F := by
  simp only [isUnreserved, Bool.or_eq_true, beq_iff_eq, isAlphanum_iff] at h
  rcases h with (((halphanum | rfl) | rfl) | rfl) | rfl
  · omega
  all_goals decide

theorem isBlank_of_isUnreserved {c : Char} (h : isUnreserved c = true) : isBlank c = false := by
  obtain ⟨hlow, hhigh⟩ := toNat_of_isUnreserved h
  simp [isBlank, isBlankCode, inRanges, blankRanges]
  omega

theorem toList_encode (text : String) : (encode text).toList = encodeChars text.toList :=
  String.toList_ofList

/-- The encoding of a text holds percent signs and unreserved characters only. -/
theorem mem_encodeChars {text : List Char} {c : Char} (hc : c ∈ encodeChars text) :
    c = '%' ∨ isUnreserved c = true := by
  rcases mem_encodeExcept hc with ⟨-, hc⟩ | hc | hc
  · exact Or.inr hc
  · exact Or.inl hc
  · exact Or.inr (isUnreserved_of_isSome_hexValue? hc)

theorem not_mem_encodeChars {text : List Char} {c : Char} (hreserved : isUnreserved c = false)
    (hpercent : c ≠ '%') : c ∉ encodeChars text := by
  intro hc
  rcases mem_encodeChars hc with heq | hunreserved
  · exact hpercent heq
  · cases hreserved.symm.trans hunreserved

/-! ## The written form -/

/-- A digit, or a letter from `A` to `F`. -/
def isCapitalHexDigit (c : Char) : Bool :=
  c.isDigit || ('A' ≤ c && c ≤ 'F')

/-- A text of unreserved characters and of bytes that are written with two capital digits. -/
inductive IsEncoded : List Char → Prop where
  | nil : IsEncoded []
  | unreserved {c : Char} {text : List Char} (hc : isUnreserved c = true)
      (htext : IsEncoded text) : IsEncoded (c :: text)
  | byte {high low : Char} {text : List Char} (hhigh : isCapitalHexDigit high = true)
      (hlow : isCapitalHexDigit low = true) (htext : IsEncoded text) :
      IsEncoded ('%' :: high :: low :: text)

theorem isCapitalHexDigit_hexDigit {n : Nat} (hn : n < 16) :
    isCapitalHexDigit (hexDigit n) = true := by
  have hall : ∀ m : Fin 16, isCapitalHexDigit (hexDigit m) = true := by decide
  exact hall ⟨n, hn⟩

theorem IsEncoded.bytes_append (bytes : List UInt8) {text : List Char} (h : IsEncoded text) :
    IsEncoded (bytes.flatMap encodeByte ++ text) := by
  induction bytes with
  | nil => exact h
  | cons b bytes ih =>
      have hb : b.toNat < 256 := b.toNat_lt
      rw [List.flatMap_cons, List.append_assoc]
      exact .byte (isCapitalHexDigit_hexDigit (by omega)) (isCapitalHexDigit_hexDigit (by omega)) ih

theorem isEncoded_encodeChars (text : List Char) : IsEncoded (encodeChars text) := by
  induction text with
  | nil => exact .nil
  | cons c text ih =>
      unfold encodeChars encodeExcept at ih ⊢
      rw [List.flatMap_cons]
      split
      · next hc => exact .unreserved hc ih
      · exact ih.bytes_append _

/-! ## Decoding -/

theorem decodeBytes_encodeByte_append (b : UInt8) (rest : List Char) :
    decodeBytes (encodeByte b ++ rest) = b :: decodeBytes rest := by
  have hb : b.toNat < 256 := b.toNat_lt
  have hvalue : 16 * (b.toNat / 16) + b.toNat % 16 = b.toNat := Nat.div_add_mod b.toNat 16
  simp only [encodeByte, List.cons_append, List.nil_append, decodeBytes]
  rw [hexValue?_hexDigit (by omega), hexValue?_hexDigit (by omega)]
  dsimp only
  rw [hvalue, UInt8.ofNat_toNat]

theorem decodeBytes_flatMap_append (bytes : List UInt8) (rest : List Char) :
    decodeBytes (bytes.flatMap encodeByte ++ rest) = bytes ++ decodeBytes rest := by
  induction bytes with
  | nil => rfl
  | cons b bytes ih =>
      rw [List.flatMap_cons, List.append_assoc, decodeBytes_encodeByte_append, ih]
      rfl

theorem decodeBytes_cons_of_ne {c : Char} (hc : c ≠ '%') (rest : List Char) :
    decodeBytes (c :: rest) = String.utf8EncodeChar c ++ decodeBytes rest := by
  rw [decodeBytes]
  rintro high low rest' rfl
  exact absurd rfl hc

/-- Text without a percent sign is its own encoding. -/
theorem decodeBytes_append_of_not_mem {first : List Char} (h : '%' ∉ first) (rest : List Char) :
    decodeBytes (first ++ rest) = Utf8.encode first ++ decodeBytes rest := by
  induction first with
  | nil => rfl
  | cons c first ih =>
      obtain ⟨hc, hfirst⟩ := not_or.mp (mt List.mem_cons.mpr h)
      have hencode : Utf8.encode (c :: first) = String.utf8EncodeChar c ++ Utf8.encode first :=
        List.flatMap_cons
      rw [List.cons_append, decodeBytes_cons_of_ne (Ne.symm hc), ih hfirst, hencode,
        List.append_assoc]

/-- If the percent sign is not taken as safe, the bytes of the text come back. -/
theorem decodeBytes_encodeExcept {isSafe : Char → Bool} (hsafe : isSafe '%' = false)
    (text : List Char) : decodeBytes (encodeExcept isSafe text) = Utf8.encode text := by
  induction text with
  | nil => rfl
  | cons c text ih =>
      have hencode : encodeExcept isSafe (c :: text) =
          (if isSafe c then [c] else (String.utf8EncodeChar c).flatMap encodeByte) ++
            encodeExcept isSafe text := List.flatMap_cons
      have hbytes : Utf8.encode (c :: text) = String.utf8EncodeChar c ++ Utf8.encode text :=
        List.flatMap_cons
      rw [hencode, hbytes]
      split
      · next hc =>
          have hpercent : c ≠ '%' := by
            rintro rfl
            rw [hsafe] at hc
            cases hc
          rw [List.singleton_append, decodeBytes_cons_of_ne hpercent, ih]
      · rw [decodeBytes_flatMap_append, ih]

theorem decodeBytes_encode (text : String) :
    decodeBytes (encode text).toList = Utf8.encode text.toList := by
  rw [encode, String.toList_ofList]
  exact decodeBytes_encodeExcept (by decide) text.toList

/-- An encoded text is read back. -/
theorem decode?_encodeChars (text : String) :
    Utf8.decode? (decodeBytes (encodeChars text.toList)) = some text.toList := by
  rw [← toList_encode, decodeBytes_encode, Utf8.decode?_encode]

end QueryBridge.Text.Percent
