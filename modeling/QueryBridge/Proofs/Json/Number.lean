import QueryBridge.Json.Token
import QueryBridge.Proofs.Text.Digits

/-!
# Integers in documents

An integer is read as it is written if what follows it does not go on with a number.  The
integers that are read, and those that are written so, have a limited number of digits.
-/

namespace QueryBridge.Json.Token

/-- The integer has no more digits than are admitted. -/
def IsAdmitted (number : Int) : Prop :=
  number.natAbs < 10 ^ maxDigits

/-- What follows a number is not read as a part of it. -/
def EndsNumber (rest : List Sign) : Prop :=
  ∀ sign ∈ rest.head?, sign.satisfies isPlain = false

/-! ## Digits -/

theorem ofDigits_toDigits (n : Nat) : ofDigits (Nat.toDigits 10 n) = n :=
  Text.foldl_toDigits n

theorem takeDigits_of_isDigit {digits : List Char} (h : ∀ c ∈ digits, c.isDigit = true) :
    takeDigits digits = (digits, []) := by
  rw [takeDigits, List.takeWhile_eq_self_iff.mpr h, List.dropWhile_eq_nil_iff.mpr h]

theorem wholePart?_toDigits (n : Nat) :
    wholePart? (Nat.toDigits 10 n) = some (Nat.toDigits 10 n, []) := by
  rcases Nat.eq_zero_or_pos n with rfl | hpos
  · rfl
  · have htake : takeDigits (Nat.toDigits 10 n) = (Nat.toDigits 10 n, []) :=
      takeDigits_of_isDigit fun c => Text.isDigit_of_mem_toDigits
    cases hdigits : Nat.toDigits 10 n with
    | nil => exact absurd hdigits Nat.toDigits_ne_nil
    | cons c digits =>
        have hc : c ≠ '0' := by
          rintro rfl
          exact Text.head?_toDigits_ne_zero hpos (by rw [hdigits]; rfl)
        have hdigit : c.isDigit = true :=
          Text.isDigit_of_mem_toDigits (by rw [hdigits]; exact List.mem_cons_self)
        rw [hdigits] at htake
        rw [wholePart?, if_pos hdigit, htake]
        exact fun h => hc h

/-! ## Numbers -/

theorem unsigned?_toDigits {n : Nat} (hn : n < 10 ^ maxDigits) (negative : Bool) :
    unsigned? negative (Nat.toDigits 10 n) =
      some (.int (if negative then -(n : Int) else n), []) := by
  have hlength : ¬ maxDigits < (Nat.toDigits 10 n).length :=
    Nat.not_lt.mpr ((Nat.length_toDigits_le_iff (by decide) (by decide)).mpr hn)
  simp [unsigned?, wholePart?_toDigits n, fractionPart, exponentPart, ofDigits_toDigits, hlength]

/-! ## The token of an integer -/

theorem ne_of_isDigit {c d : Char} (hc : c.isDigit = true) (hd : d.isDigit = false) : c ≠ d := by
  rintro rfl
  rw [hc] at hd
  cases hd

/-- No word begins with a digit, or with a minus sign and a digit. -/
theorem word?_of_isDigit {c : Char} (hc : c.isDigit = true) (text : List Char) :
    word? (c :: text) = none ∧ word? ('-' :: c :: text) = none := by
  have hne : ∀ d : Char, d.isDigit = false → ¬ d = c := fun d hd => (ne_of_isDigit hc hd).symm
  constructor
  · simp [word?, words, afterWord?, hne]
  · simp [word?, words, afterWord?, hne]

/-- A written integer is read back. -/
theorem number?_toString {number : Int} (h : IsAdmitted number) :
    word? (toString number).toList = none ∧
      number? (toString number).toList = some (.int number, []) := by
  have hread := fun negative => unsigned?_toDigits h negative
  obtain ⟨c, digits, hdigits⟩ := List.exists_cons_of_ne_nil
    (Nat.toDigits_ne_nil (n := number.natAbs) (b := 10))
  have hc : c.isDigit = true :=
    Text.isDigit_of_mem_toDigits (by rw [hdigits]; exact List.mem_cons_self)
  obtain ⟨hword, hsigned⟩ := word?_of_isDigit hc digits
  rw [hdigits] at hread
  rw [Int.toString_eq_repr, Int.repr_eq_if]
  split
  · next hpos =>
      have habs : number.natAbs = number.toNat := by omega
      rw [Nat.toList_repr, ← habs, hdigits]
      refine ⟨hword, ?_⟩
      unfold number?
      split
      · next heq => exact absurd (List.cons.inj heq).1 (ne_of_isDigit hc rfl)
      · rw [hread false, if_neg Bool.false_ne_true, Int.natAbs_of_nonneg hpos]
  · next hneg =>
      have hsign : "-".toList = ['-'] := rfl
      have habs : number.natAbs = (-number).toNat := by omega
      rw [String.toList_append, hsign, Nat.toList_repr, ← habs, hdigits]
      refine ⟨hsigned, ?_⟩
      show number? ('-' :: c :: digits) = _
      rw [number?, hread true, if_pos rfl, Int.ofNat_natAbs_of_nonpos (by omega), Int.neg_neg]

theorem toString_int_ne_nil (number : Int) : (toString number).toList ≠ [] := by
  rw [Int.toString_eq_repr, Int.repr_eq_if]
  split
  · rw [Nat.toList_repr]
    exact Nat.toDigits_ne_nil
  · rw [String.toList_append]
    exact List.append_ne_nil_of_left_ne_nil (by decide) _

theorem mem_toString_int {number : Int} {c : Char} (h : c ∈ (toString number).toList) :
    c = '-' ∨ c.isDigit = true := by
  rw [Int.toString_eq_repr, Int.repr_eq_if] at h
  split at h
  · exact Or.inr (Text.isDigit_of_mem_repr h)
  · rw [String.toList_append] at h
    rcases List.mem_append.mp h with h | h
    · exact Or.inl (List.mem_singleton.mp h)
    · exact Or.inr (Text.isDigit_of_mem_repr h)

/-- A run of plain characters is read by itself. -/
theorem plain?_append {run : List Char} (hrun : ∀ c ∈ run, isPlain c = true) {rest : List Sign}
    (hrest : EndsNumber rest) :
    plain? (Sign.ofText run ++ rest) =
      ((word? run).or (number? run)).map fun found => (found.1, Sign.ofText found.2 ++ rest) := by
  have hsigns : ∀ sign ∈ Sign.ofText run, sign.satisfies isPlain = true := by
    intro sign hsign
    obtain ⟨c, hc, rfl⟩ := List.mem_map.mp hsign
    exact hrun c hc
  have htake : rest.takeWhile (Sign.satisfies isPlain) = [] := by
    cases rest with
    | nil => rfl
    | cons sign rest => exact List.takeWhile_cons_of_neg (by simp [hrest sign rfl])
  have hdrop : rest.dropWhile (Sign.satisfies isPlain) = rest := by
    cases rest with
    | nil => rfl
    | cons sign rest => exact List.dropWhile_cons_of_neg (by simp [hrest sign rfl])
  have hchars : (Sign.ofText run).filterMap Sign.char? = run := by
    rw [Sign.ofText, List.filterMap_map]
    exact List.filterMap_some
  rw [plain?, List.takeWhile_append_of_pos hsigns, List.dropWhile_append_of_pos hsigns, htake,
    hdrop, List.append_nil, hchars]

/-- A run of plain characters makes no other token. -/
theorem next?_ofText {c : Char} (hc : isPlain c = true) (run : List Char) (rest : List Sign) :
    next? (Sign.ofText (c :: run) ++ rest) =
      (plain? (Sign.ofText (c :: run) ++ rest)).map fun found => (.scalar found.1, found.2) := by
  have hne : ∀ d : Char, isPlain d = false → Sign.char c ≠ .char d := by
    rintro d hd heq
    rw [Sign.char.inj heq, hd] at hc
    cases hc
  rw [next?.eq_def]
  split
  case h_8 => rfl
  -- the other tokens begin with signs of their own
  all_goals
    next heq => exact absurd (List.cons.inj heq).1 (hne _ rfl)

/-- A run of plain characters that is read to its end is one token. -/
theorem next?_run {c : Char} {run : List Char} (hrun : ∀ d ∈ c :: run, isPlain d = true)
    {value : Value} (hread : (word? (c :: run)).or (number? (c :: run)) = some (value, []))
    {rest : List Sign} (hrest : EndsNumber rest) :
    next? (Sign.ofText (c :: run) ++ rest) = some (.scalar value, rest) := by
  rw [next?_ofText (hrun c List.mem_cons_self), plain?_append hrun hrest, hread]
  rfl

theorem next?_int {number : Int} (hnumber : IsAdmitted number) {rest : List Sign}
    (hrest : EndsNumber rest) :
    next? (Sign.ofText (toString number).toList ++ rest) = some (.scalar (.int number), rest) := by
  obtain ⟨hword, hread⟩ := number?_toString hnumber
  have hplain : ∀ c ∈ (toString number).toList, isPlain c = true := by
    intro c hc
    rcases mem_toString_int hc with rfl | hdigit
    · rfl
    · simp [isPlain, Char.isAlphanum, hdigit]
  obtain ⟨c, run, hrun⟩ := List.exists_cons_of_ne_nil (toString_int_ne_nil number)
  rw [hrun] at hword hread hplain ⊢
  refine next?_run hplain ?_ hrest
  rw [hword, hread]
  rfl

/-! ## The integers that are read -/

theorem isDigit_of_mem_wholePart? {text : List Char} {found : List Char × List Char}
    (h : wholePart? text = some found) : ∀ c ∈ found.1, c.isDigit = true := by
  unfold wholePart? at h
  split at h
  · cases h
    exact List.forall_mem_singleton.mpr rfl
  · split at h
    · cases h
      exact fun c hc => List.mem_takeWhile_imp hc
    · cases h
  · cases h

/-- A number that is read is an integer of an admitted size or a float. -/
theorem unsigned?_cases {negative : Bool} {text : List Char} {found : Value × List Char}
    (h : unsigned? negative text = some found) :
    (∃ number, IsAdmitted number ∧ found.1 = .int number) ∨ ∃ number, found.1 = .float number := by
  simp only [unsigned?, Option.bind_eq_bind, Option.bind_eq_some_iff] at h
  obtain ⟨whole, hwhole, h⟩ := h
  split at h
  · split at h
    · cases h
    · next hlength =>
        cases h
        have hdigits : ofDigits whole.1 < 10 ^ whole.1.length :=
          Text.foldl_digits_lt (isDigit_of_mem_wholePart? hwhole)
        have hbound : 10 ^ whole.1.length ≤ 10 ^ maxDigits :=
          Nat.pow_le_pow_right (by decide) (Nat.le_of_not_lt hlength)
        refine Or.inl ⟨_, ?_, rfl⟩
        have habs : (if negative then -(ofDigits whole.1 : Int) else ofDigits whole.1).natAbs =
            ofDigits whole.1 := by
          cases negative <;> simp
        rw [IsAdmitted, habs]
        exact Nat.lt_of_lt_of_le hdigits hbound
  · cases h
    exact Or.inr ⟨_, rfl⟩

theorem number?_cases {text : List Char} {found : Value × List Char}
    (h : number? text = some found) :
    (∃ number, IsAdmitted number ∧ found.1 = .int number) ∨ ∃ number, found.1 = .float number := by
  unfold number? at h
  split at h
  · exact unsigned?_cases h
  · exact unsigned?_cases h

end QueryBridge.Json.Token
