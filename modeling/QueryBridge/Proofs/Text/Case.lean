import QueryBridge.Text.Case

/-!
# Signs under the lower-case mapping

The characters from the space up to the capital A are digits and other signs without case.  The
small form of a text has exactly those of the text: a sign is its own small form, and no other
character has a sign in its small form.
-/

namespace QueryBridge.Text

/-- The character is a space, a digit or another sign in front of the ASCII letters. -/
def IsSign (c : Char) : Prop :=
  ' ' ≤ c ∧ c < 'A'

instance (c : Char) : Decidable (IsSign c) :=
  inferInstanceAs (Decidable (_ ∧ _))

theorem IsSign.toNat_bounds {c : Char} (h : IsSign c) : 0x20 ≤ c.toNat ∧ c.toNat < 0x41 :=
  ⟨UInt32.le_iff_toNat_le.mp h.1, UInt32.lt_iff_toNat_lt.mp h.2⟩

/-! ## Single characters -/

theorem toLower_cases (c : Char) :
    c.toLower = c ∨ 0x41 ≤ c.toNat ∧ 0x41 ≤ c.toLower.toNat := by
  unfold Char.toLower
  split
  · next hcapital =>
    have hfirst : 0x41 ≤ c.val.toNat := UInt32.le_iff_toNat_le.mp hcapital.1
    have hlast : c.val.toNat ≤ 0x5A := UInt32.le_iff_toNat_le.mp hcapital.2
    have hsmall : (c.val + ('a'.val - 'A'.val)).toNat = c.val.toNat + 0x20 := by
      rw [UInt32.toNat_add, show ('a'.val - 'A'.val).toNat = 0x20 from rfl]
      omega
    refine Or.inr ⟨hfirst, ?_⟩
    show 0x41 ≤ (c.val + ('a'.val - 'A'.val)).toNat
    omega
  · exact Or.inl rfl

theorem toNat_ofNat_cases (code : Nat) :
    (Char.ofNat code).toNat = code ∨ (Char.ofNat code).toNat = 0 := by
  unfold Char.ofNat
  by_cases hvalid : code.isValidChar
  · rw [dif_pos hvalid]
    exact Or.inl rfl
  · rw [dif_neg hvalid]
    exact Or.inr rfl

/-- All small letters of the table are behind the capital A. -/
theorem capital_le_of_mem_capitalRuns :
    ∀ run ∈ capitalRuns, 0x41 ≤ (run.first : Int) + run.distance := by
  decide +kernel

theorem lowerChar_of_isSign {c : Char} (h : IsSign c) : lowerChar c = [c] := by
  have hbounds := h.toNat_bounds
  rcases lowerChar_cases c with ⟨-, heq⟩ | ⟨rfl, -⟩ | ⟨run, -, hascii, -⟩ | heq
  · rcases toLower_cases c with hsame | ⟨hletter, -⟩
    · rw [heq, hsame]
    · omega
  · exact absurd h (by decide)
  · omega
  · exact heq

/-- Only a sign has a sign in its small form. -/
theorem eq_of_mem_lowerChar {c d : Char} (hsign : IsSign c) (h : c ∈ lowerChar d) : c = d := by
  have hbounds := hsign.toNat_bounds
  rcases lowerChar_cases d with ⟨-, heq⟩ | ⟨-, heq⟩ | ⟨run, hrun, -, hfirst, heq⟩ | heq
  · obtain rfl : c = d.toLower := by simpa [heq] using h
    rcases toLower_cases d with hsame | ⟨-, hletter⟩
    · exact hsame
    · omega
  · obtain rfl | rfl : c = 'i' ∨ c = '\u0307' := by simpa [heq] using h
    · exact absurd hsign (by decide)
    · exact absurd hsign (by decide)
  · obtain rfl : c = Char.ofNat (d.toNat + run.distance).toNat := by simpa [heq] using h
    have hsmall := capital_le_of_mem_capitalRuns run hrun
    rcases toNat_ofNat_cases (d.toNat + run.distance).toNat with hcode | hcode <;> omega
  · simpa [heq] using h

theorem eq_of_mem_lowerCode {c : Char} {code : Nat} (hsign : IsSign c)
    (h : c.toNat ∈ lowerCode code) : c.toNat = code := by
  unfold lowerCode at h
  split at h
  · next hvalid =>
    obtain ⟨small, hsmall, heq⟩ := List.mem_map.mp h
    rw [Char.toNat_inj] at heq
    subst heq
    rw [eq_of_mem_lowerChar hsign hsmall, Char.ofNat, dif_pos hvalid]
    rfl
  · exact List.mem_singleton.mp h

/-! ## Texts -/

/-- The signs of a text are those of its small form. -/
theorem mem_lowerCodes_iff {c : Char} {codes : List Nat} (hsign : IsSign c) :
    c.toNat ∈ lowerCodes codes ↔ c.toNat ∈ codes := by
  constructor
  · intro h
    have hbounds := hsign.toNat_bounds
    rcases mem_lowerCodes h with ⟨other, hother, hcode⟩ | hfinal | hsigma
    · rw [eq_of_mem_lowerCode hsign hcode]
      exact hother
    · rw [hfinal] at hbounds
      exact absurd hbounds (by decide)
    · rw [hsigma] at hbounds
      exact absurd hbounds (by decide)
  · intro h
    have hsigma : c.toNat ≠ 'Σ'.toNat := by
      intro heq
      rw [Char.toNat_inj] at heq
      subst heq
      exact absurd hsign (by decide)
    refine mem_lowerCodes_of_mem h hsigma ?_
    rw [lowerCode_toNat, lowerChar_of_isSign hsign]
    exact List.mem_singleton_self c.toNat

end QueryBridge.Text
