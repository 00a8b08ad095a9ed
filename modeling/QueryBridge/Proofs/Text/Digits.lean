import Mathlib.Data.List.Basic
import Mathlib.Data.List.Induction
import Mathlib.Tactic.IntervalCases
import QueryBridge.Proofs.Text.Blank
import QueryBridge.Proofs.Text.Percent
import QueryBridge.Text.Quoted

/-!
# Digits

A natural number is written without leading zeros, and its value is read back digit by digit.
In an escape it is filled with zeros up to the width.
-/

namespace QueryBridge.Text

theorem isBlank_of_isDigit {c : Char} (h : c.isDigit = true) : isBlank c = false := by
  refine Percent.isBlank_of_isUnreserved ?_
  simp [Percent.isUnreserved, Char.isAlphanum, h]

/-- Blanks around digits are all that trimming takes away. -/
theorem isTrimmed_of_isDigit {before digits after : List Char} (hbefore : IsBlankRun before)
    (hafter : IsBlankRun after) (h : ∀ c ∈ digits, c.isDigit = true) :
    IsTrimmed (before ++ digits ++ after) digits where
  surrounded := ⟨before, after, hbefore, hafter, rfl⟩
  head_not_blank c hc := isBlank_of_isDigit (h c (List.mem_of_mem_head? hc))
  last_not_blank c hc := isBlank_of_isDigit (h c (List.mem_of_mem_getLast? hc))

/-- The value that digits have from the left to the right. -/
theorem foldl_toDigits (n : Nat) :
    (Nat.toDigits 10 n).foldl (fun value digit => value * 10 + (digit.toNat - 48)) 0 = n := by
  calc _ = Nat.ofDigitChars 10 (Nat.toDigits 10 n) 0 := by
        rw [Nat.ofDigitChars_eq_foldl]
        congr 1
        funext value digit
        rw [Nat.mul_comm]
        rfl
    _ = n := Nat.ofDigitChars_ten_toDigits

theorem isDigit_of_mem_toDigits {n : Nat} {c : Char} (h : c ∈ Nat.toDigits 10 n) :
    c.isDigit = true :=
  Nat.isDigit_of_mem_toDigits (by decide) (by decide) h

theorem isDigit_of_mem_repr {n : Nat} {c : Char} (h : c ∈ n.repr.toList) : c.isDigit = true := by
  rw [Nat.toList_repr] at h
  exact isDigit_of_mem_toDigits h

/-- Only zero is written with a zero in front. -/
theorem head?_toDigits_ne_zero {n : Nat} (hn : 0 < n) :
    (Nat.toDigits 10 n).head? ≠ some '0' := by
  induction n using Nat.strongRecOn with
  | ind n ih =>
      rw [Nat.toDigits_eq_if (by decide)]
      split
      · next hsmall => interval_cases n <;> decide
      · next hlarge =>
          rw [List.head?_append_of_ne_nil _ Nat.toDigits_ne_nil]
          exact ih (n / 10) (by omega) (by omega)

theorem foldl_digits_lt {digits : List Char} (h : ∀ c ∈ digits, c.isDigit = true) :
    digits.foldl (fun value digit => value * 10 + (digit.toNat - 48)) 0 < 10 ^ digits.length := by
  induction digits using List.reverseRecOn with
  | nil => decide
  | append_singleton digits digit ih =>
      have hdigits := ih fun c hc => h c (List.mem_append_left _ hc)
      obtain ⟨-, hdigit⟩ := Percent.isDigit_iff.mp (h digit (by simp))
      rw [List.foldl_append, List.foldl_cons, List.foldl_nil, List.length_append,
        List.length_singleton, pow_succ]
      omega

/-! ## Hexadecimal digits -/

theorem hexValue?_digitChar {n : Nat} (hn : n < 16) :
    Percent.hexValue? (Nat.digitChar n) = some n := by
  have hall : ∀ m : Fin 16, Percent.hexValue? (Nat.digitChar m) = some m.val := by decide
  exact hall ⟨n, hn⟩

theorem hexDigits_succ {width : Nat} (hwidth : 0 < width) (code : Nat) :
    hexDigits (width + 1) code = hexDigits width (code / 16) ++ [Nat.digitChar (code % 16)] := by
  unfold hexDigits
  by_cases hsmall : code < 16
  · have hquotient : code / 16 = 0 := by omega
    obtain ⟨zeros, rfl⟩ : ∃ zeros, width = zeros + 1 := ⟨width - 1, by omega⟩
    rw [Nat.toDigits_of_lt_base hsmall, hquotient, Nat.mod_eq_of_lt hsmall]
    show List.replicate (zeros + 1) '0' ++ _ = List.replicate zeros '0' ++ ['0'] ++ _
    rw [List.replicate_succ']
  · dsimp only
    rw [Nat.toDigits_of_base_le (by decide) (Nat.le_of_not_lt hsmall), List.length_append,
      List.length_singleton, Nat.add_sub_add_right, List.append_assoc]

/-- The four digits of an escape. -/
theorem hexDigits_four {code : Nat} (hcode : code < 0x10000) :
    hexDigits 4 code = [Nat.digitChar (code / 16 / 16 / 16), Nat.digitChar (code / 16 / 16 % 16),
      Nat.digitChar (code / 16 % 16), Nat.digitChar (code % 16)] := by
  have hfirst : hexDigits 1 (code / 16 / 16 / 16) = [Nat.digitChar (code / 16 / 16 / 16)] := by
    rw [hexDigits, Nat.toDigits_of_lt_base (by omega)]
    rfl
  rw [hexDigits_succ (by decide), hexDigits_succ (by decide), hexDigits_succ (by decide), hfirst]
  rfl

theorem isSome_hexValue?_of_mem_hexDigits {code : Nat} (hcode : code < 0x10000) {c : Char}
    (h : c ∈ hexDigits 4 code) : (Percent.hexValue? c).isSome = true := by
  have hdigit : ∀ n < 16, (Percent.hexValue? (Nat.digitChar n)).isSome = true := by
    intro n hn
    rw [hexValue?_digitChar hn]
    rfl
  rw [hexDigits_four hcode] at h
  simp only [List.mem_cons, List.not_mem_nil, or_false] at h
  rcases h with rfl | rfl | rfl | rfl <;> exact hdigit _ (by omega)

end QueryBridge.Text
