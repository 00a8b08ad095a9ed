import Mathlib.Data.Nat.Digits.Defs
import QueryBridge.Count
import QueryBridge.Proofs.Json.Number

/-!
# Reading counts

A count is stated by a natural number, or by not too many decimal digits with blanks around
them.  The values that state a count are read as this count, and no other value is read.
-/

namespace QueryBridge.Count

open QueryBridge.Text (IsBlankRun IsTrimmed)

/-- The number that decimal digits stand for, the last one being the units. -/
def decimal (digits : List Char) : Nat :=
  Nat.ofDigits 10 (digits.reverse.map fun digit => digit.toNat - '0'.toNat)

/-- The values that state a count.  Zeros in front of the digits are admitted, and they count. -/
inductive IsStated : Json.Value → Nat → Prop
  | number (n : Nat) : IsStated (.int n) n
  | digits {text : String} {digits : List Char} :
      IsTrimmed text.toList digits → digits ≠ [] → (∀ c ∈ digits, '0' ≤ c ∧ c ≤ '9') →
        digits.length ≤ 4300 → IsStated (.text text) (decimal digits)

/-! ## Digits -/

theorem ofDigits_eq_decimal (digits : List Char) : Json.Token.ofDigits digits = decimal digits := by
  induction digits using List.reverseRecOn with
  | nil => rfl
  | append_singleton digits digit ih =>
      have hread : Json.Token.ofDigits (digits ++ [digit]) =
          Json.Token.ofDigits digits * 10 + (digit.toNat - 48) := List.foldl_append
      have hunits : decimal (digits ++ [digit]) = (digit.toNat - 48) + 10 * decimal digits := by
        unfold decimal
        rw [List.reverse_append, List.reverse_singleton, List.singleton_append, List.map_cons,
          Nat.ofDigits_cons]
        rfl
      rw [hread, hunits, ih]
      omega

theorem isDigit_iff_between {c : Char} : c.isDigit = true ↔ '0' ≤ c ∧ c ≤ '9' := by
  rw [Text.Percent.isDigit_iff, Char.le_def, Char.le_def, UInt32.le_iff_toNat_le,
    UInt32.le_iff_toNat_le]
  rfl

/-! ## Reading -/

theorem ofValue_of_isStated {value : Json.Value} {n : Nat} (h : IsStated value n) :
    ofValue value = .ok n := by
  cases h with
  | number n =>
      rw [ofValue, if_pos (Int.natCast_nonneg n), Int.toNat_natCast]
  | @digits text digits htrimmed hne hdigits hlength =>
      have hall : digits.all Char.isDigit = true :=
        List.all_eq_true.mpr fun c hc => isDigit_iff_between.mpr (hdigits c hc)
      have hshort : ¬ Json.Token.maxDigits < digits.length := Nat.not_lt.mpr hlength
      simp [ofValue, htrimmed.trimChars_eq, hne, hall, hshort, ofDigits_eq_decimal]

theorem isStated_of_ofValue {value : Json.Value} {n : Nat} (h : ofValue value = .ok n) :
    IsStated value n := by
  cases value with
  | int number =>
      rw [ofValue] at h
      split at h
      · next hpos =>
          cases h
          obtain ⟨n, rfl⟩ := Int.eq_ofNat_of_zero_le hpos
          exact .number n
      · cases h
  | text text =>
      simp only [ofValue] at h
      split at h
      · cases h
      · next hdigits =>
          split at h
          · cases h
          · next hlength =>
              cases h
              simp only [Bool.or_eq_true, Bool.not_eq_true', not_or, Bool.not_eq_false,
                List.all_eq_true, List.isEmpty_iff] at hdigits
              rw [ofDigits_eq_decimal]
              exact .digits (Text.isTrimmed_trimChars _) hdigits.1
                (fun c hc => isDigit_iff_between.mp (hdigits.2 c hc)) (Nat.le_of_not_lt hlength)
  | _ => cases h

/-- A value is read as a count exactly if it states this count. -/
theorem ofValue_eq_ok_iff {value : Json.Value} {n : Nat} :
    ofValue value = .ok n ↔ IsStated value n :=
  ⟨isStated_of_ofValue, ofValue_of_isStated⟩

theorem exists_error_iff {value : Json.Value} :
    (∃ error, ofValue value = .error error) ↔ ∀ n, ¬ IsStated value n := by
  simp only [← ofValue_eq_ok_iff]
  cases ofValue value <;> simp

/-! ## Written counts -/

-- the bound is a variable here, so that no power is evaluated
theorem length_toDigits_le {n bound : Nat} (hn : n < 10 ^ bound) (hbound : 0 < bound) :
    (Nat.toDigits 10 n).length ≤ bound :=
  (Nat.length_toDigits_le_iff (by decide) hbound).mpr hn

/-- The decimal text of a count states it, with any blanks around it. -/
theorem isStated_padded {n : Nat} (hn : n < 10 ^ 4300) {before after : List Char}
    (hbefore : IsBlankRun before) (hafter : IsBlankRun after) :
    IsStated (.text (String.ofList (before ++ (toString n).toList ++ after))) n := by
  have hdigits : ∀ c ∈ n.repr.toList, c.isDigit = true := fun c => Text.isDigit_of_mem_repr
  have hlength : n.repr.toList.length ≤ 4300 := by
    rw [Nat.toList_repr]
    exact length_toDigits_le hn (by decide)
  have hvalue : decimal n.repr.toList = n := by
    rw [← ofDigits_eq_decimal, Nat.toList_repr, Json.Token.ofDigits_toDigits]
  have hstated : IsStated (.text (String.ofList (before ++ n.repr.toList ++ after)))
      (decimal n.repr.toList) := by
    apply IsStated.digits _ _ (fun c hc => isDigit_iff_between.mp (hdigits c hc)) hlength
    · rw [String.toList_ofList]
      exact Text.isTrimmed_of_isDigit hbefore hafter hdigits
    · rw [Nat.toList_repr]
      exact Nat.toDigits_ne_nil
  rw [hvalue] at hstated
  exact hstated

/-- A number that was read is no negative one. -/
theorem ofInt_natCast (n : Nat) : ofInt n = .ok ⟨n⟩ := by
  rw [ofInt, if_pos (Int.natCast_nonneg n), Int.toNat_natCast]

end QueryBridge.Count
