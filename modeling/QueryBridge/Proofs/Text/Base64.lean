import QueryBridge.Text.Base64

/-!
# Base 64 and back

Whatever the bytes are, their encoding consists of characters of the standard alphabet, with
fillings at its end up to a whole group of four.  Reading gives the bytes back.
-/

namespace QueryBridge.Text.Base64

theorem toNat_digit_lt (n : Nat) : (digit n).toNat < 0x80 := by
  by_cases hn : n < 64
  · have hall : ∀ m : Fin 64, (digit m).toNat < 0x80 := by decide
    exact hall ⟨n, hn⟩
  · unfold digit
    rw [if_neg (by omega), if_neg (by omega), if_neg (by omega), if_neg (by omega)]
    decide

theorem toNat_lt_of_mem_encode {bytes : List UInt8} {c : Char} (h : c ∈ encode bytes) :
    c.toNat < 0x80 := by
  have hfill : ('=' : Char).toNat < 0x80 := by decide
  induction bytes using encode.induct with
  | case1 a b d rest ih =>
      simp only [encode, List.mem_cons] at h
      rcases h with rfl | rfl | rfl | rfl | h
      · exact toNat_digit_lt _
      · exact toNat_digit_lt _
      · exact toNat_digit_lt _
      · exact toNat_digit_lt _
      · exact ih h
  | case2 a b =>
      simp only [encode, List.mem_cons, List.not_mem_nil, or_false] at h
      rcases h with rfl | rfl | rfl | rfl
      · exact toNat_digit_lt _
      · exact toNat_digit_lt _
      · exact toNat_digit_lt _
      · exact hfill
  | case3 a =>
      simp only [encode, List.mem_cons, List.not_mem_nil, or_false] at h
      rcases h with rfl | rfl | rfl | rfl
      · exact toNat_digit_lt _
      · exact toNat_digit_lt _
      · exact hfill
      · exact hfill
  | case4 => exact absurd h List.not_mem_nil

/-! ## The standard alphabet -/

def alphabet : List Char :=
  "ABCDEFGHIJKLMNOPQRSTUVWXYZabcdefghijklmnopqrstuvwxyz0123456789+/".toList

theorem digit_mem_alphabet {n : Nat} (hn : n < 64) : digit n ∈ alphabet := by
  have hall : ∀ m : Fin 64, digit m ∈ alphabet := by decide +kernel
  exact hall ⟨n, hn⟩

/-- Whole groups of four characters, all of the alphabet but for fillings at the end. -/
structure IsPadded (text : List Char) : Prop where
  length_mod : text.length % 4 = 0
  filled : ∃ body count, text = body ++ List.replicate count '=' ∧ count ≤ 2 ∧ body ⊆ alphabet

theorem IsPadded.not_mem {text : List Char} (h : IsPadded text) {c : Char} (hfill : c ≠ '=')
    (hc : c ∉ alphabet) : c ∉ text := by
  obtain ⟨body, count, rfl, -, hbody⟩ := h.filled
  intro hmem
  rcases List.mem_append.mp hmem with hmem | hmem
  · exact hc (hbody hmem)
  · exact hfill (List.eq_of_mem_replicate hmem)

theorem IsPadded.not_mem_blank {text : List Char} (h : IsPadded text) : ' ' ∉ text :=
  h.not_mem (by decide) (by decide)

theorem IsPadded.not_mem_star {text : List Char} (h : IsPadded text) : '*' ∉ text :=
  h.not_mem (by decide) (by decide)

theorem isPadded_encode (bytes : List UInt8) : IsPadded (encode bytes) := by
  induction bytes using encode.induct with
  | case1 a b c rest ih =>
      have ha := a.toNat_lt
      have hb := b.toNat_lt
      have hc := c.toNat_lt
      obtain ⟨body, count, hbody, hcount, hsubset⟩ := ih.filled
      have hlength := ih.length_mod
      simp only [encode]
      generalize hn : a.toNat * 65536 + b.toNat * 256 + c.toNat = n
      constructor
      · simp only [List.length_cons]
        omega
      · refine ⟨digit (n / 262144) :: digit (n / 4096 % 64) :: digit (n / 64 % 64) ::
          digit (n % 64) :: body, count, by rw [hbody]; rfl, hcount, ?_⟩
        simp only [List.cons_subset]
        refine ⟨digit_mem_alphabet ?_, digit_mem_alphabet ?_, digit_mem_alphabet ?_,
          digit_mem_alphabet ?_, hsubset⟩ <;> omega
  | case2 a b =>
      have ha := a.toNat_lt
      have hb := b.toNat_lt
      simp only [encode]
      generalize hn : a.toNat * 1024 + b.toNat * 4 = n
      refine ⟨by simp, [digit (n / 4096), digit (n / 64 % 64), digit (n % 64)], 1, rfl, by decide,
        ?_⟩
      simp only [List.cons_subset, List.nil_subset, and_true]
      refine ⟨digit_mem_alphabet ?_, digit_mem_alphabet ?_, digit_mem_alphabet ?_⟩ <;> omega
  | case3 a =>
      have ha := a.toNat_lt
      simp only [encode]
      generalize hn : a.toNat * 16 = n
      refine ⟨by simp, [digit (n / 64), digit (n % 64)], 2, rfl, by decide, ?_⟩
      simp only [List.cons_subset, List.nil_subset, and_true]
      refine ⟨digit_mem_alphabet ?_, digit_mem_alphabet ?_⟩ <;> omega
  | case4 => exact ⟨rfl, [], 0, rfl, by decide, List.nil_subset _⟩

theorem length_le_length_encode (bytes : List UInt8) : bytes.length ≤ (encode bytes).length := by
  induction bytes using encode.induct with
  | case1 a b c rest ih =>
      simp only [encode, List.length_cons]
      omega
  | case2 a b => simp [encode]
  | case3 a => simp [encode]
  | case4 => exact Nat.le_refl 0

/-! ## Reading what was written -/

theorem value?_digit {n : Nat} (hn : n < 64) : value? (digit n) = some n := by
  have hall : ∀ m : Fin 64, value? (digit m) = some m.val := by decide
  exact hall ⟨n, hn⟩

theorem digit_ne_filling {n : Nat} (hn : n < 64) : digit n ≠ '=' := by
  have hall : ∀ m : Fin 64, digit m ≠ '=' := by decide
  exact hall ⟨n, hn⟩

section Groups

variable {n left : Nat} (hn : n < 64) (filled : Nat) (rest : List Char)
include hn

theorem decodeAt_first : decodeAt 0 left filled (digit n :: rest) = decodeAt 1 n 0 rest := by
  simp [decodeAt, digit_ne_filling hn, value?_digit hn]

theorem decodeAt_second : decodeAt 1 left filled (digit n :: rest) =
    (decodeAt 2 (n % 16) 0 rest).map (UInt8.ofNat (left * 4 + n / 16) :: ·) := by
  simp [decodeAt, digit_ne_filling hn, value?_digit hn]

theorem decodeAt_third : decodeAt 2 left filled (digit n :: rest) =
    (decodeAt 3 (n % 4) 0 rest).map (UInt8.ofNat (left * 16 + n / 4) :: ·) := by
  simp [decodeAt, digit_ne_filling hn, value?_digit hn]

theorem decodeAt_fourth : decodeAt 3 left filled (digit n :: rest) =
    (decodeAt 0 0 0 rest).map (UInt8.ofNat (left * 64 + n) :: ·) := by
  simp [decodeAt, digit_ne_filling hn, value?_digit hn]

end Groups

theorem ofNat_eq_of_toNat {n : Nat} {byte : UInt8} (h : n = byte.toNat) :
    UInt8.ofNat n = byte := by
  rw [h, UInt8.ofNat_toNat]

/-- Reading undoes writing. -/
theorem decode?_encode (bytes : List UInt8) : decode? (encode bytes) = some bytes := by
  unfold decode?
  induction bytes using encode.induct with
  | case1 a b c rest ih =>
      have ha := a.toNat_lt
      have hb := b.toNat_lt
      have hc := c.toNat_lt
      simp only [encode]
      rw [decodeAt_first (by omega), decodeAt_second (by omega), decodeAt_third (by omega),
        decodeAt_fourth (by omega), ih]
      simp only [Option.map_some, Option.some.injEq, List.cons.injEq, and_true]
      refine ⟨ofNat_eq_of_toNat ?_, ofNat_eq_of_toNat ?_, ofNat_eq_of_toNat ?_⟩ <;> omega
  | case2 a b =>
      have ha := a.toNat_lt
      have hb := b.toNat_lt
      simp only [encode]
      rw [decodeAt_first (by omega), decodeAt_second (by omega), decodeAt_third (by omega)]
      -- one filling completes the group
      simp only [decodeAt, reduceIte, Nat.reduceLT, Nat.reduceAdd, Nat.reduceLeDiff,
        Option.map_some, Option.some.injEq, List.cons.injEq, and_true]
      refine ⟨ofNat_eq_of_toNat ?_, ofNat_eq_of_toNat ?_⟩ <;> omega
  | case3 a =>
      have ha := a.toNat_lt
      simp only [encode]
      rw [decodeAt_first (by omega), decodeAt_second (by omega)]
      -- two fillings complete the group
      simp only [decodeAt, reduceIte, Nat.reduceLT, Nat.reduceAdd, Nat.reduceLeDiff,
        Option.map_some, Option.some.injEq, List.cons.injEq, and_true]
      exact ofNat_eq_of_toNat (by omega)
  | case4 => rfl

end QueryBridge.Text.Base64
