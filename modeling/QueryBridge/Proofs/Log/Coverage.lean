import Mathlib.Data.List.Infix
import QueryBridge.Proofs.Log.Redaction

/-!
# What masking covers

No secret without a star is left in a masked text.  Masking puts stars only, so what occurs in
the masked text without a star has occurred before: neither the mask of another secret nor what
is left on its two sides can make up a secret again.
-/

namespace QueryBridge.Log

variable {secret part text : List Nat}

/-! ## One secret -/

theorem infix_of_infix_star (hpart : star ∉ part) (h : part <:+: star :: text) : part <:+: text :=
    by
  rcases List.infix_cons_iff.mp h with h | h
  · rcases List.prefix_cons_iff.mp h with rfl | ⟨rest, rfl, -⟩
    · exact List.nil_infix
    · exact absurd List.mem_cons_self hpart
  · exact h

theorem infix_of_infix_mask (hpart : star ∉ part) (h : part <:+: mask ++ text) : part <:+: text :=
  infix_of_infix_star hpart (infix_of_infix_star hpart (infix_of_infix_star hpart h))

/-- A beginning of the masked text without a star has not been touched. -/
theorem prefix_of_prefix_maskFrom (hpart : star ∉ part) (h : part <+: maskFrom secret 0 text) :
    part <+: text := by
  induction text generalizing part with
  | nil => exact h
  | cons c text ih =>
      rw [maskFrom] at h
      split at h
      · rcases List.prefix_cons_iff.mp h with rfl | ⟨rest, rfl, -⟩
        · exact List.nil_prefix
        · exact absurd List.mem_cons_self hpart
      · rcases List.prefix_cons_iff.mp h with rfl | ⟨rest, rfl, hrest⟩
        · exact List.nil_prefix
        · have hstars : star ∉ rest := fun hmem => hpart (List.mem_cons_of_mem _ hmem)
          exact List.cons_prefix_cons.mpr ⟨rfl, ih hstars hrest⟩

/-- What occurs in the masked text without a star has occurred before. -/
theorem infix_of_infix_maskFrom (hpart : star ∉ part) {skip : Nat}
    (h : part <:+: maskFrom secret skip text) : part <:+: text := by
  induction text generalizing skip with
  | nil => cases skip <;> exact h
  | cons c text ih =>
      cases skip with
      | succ skip => exact List.infix_cons (ih h)
      | zero =>
          rw [maskFrom] at h
          split at h
          · exact List.infix_cons (ih (infix_of_infix_mask hpart h))
          · rcases List.infix_cons_iff.mp h with hbegins | h
            · next hkept =>
              have hprefix : part <+: maskFrom secret 0 (c :: text) := by
                rw [maskFrom, if_neg hkept]
                exact hbegins
              exact (prefix_of_prefix_maskFrom hpart hprefix).isInfix
            · exact List.infix_cons (ih h)

/-- A secret without a star does not occur in the text in which it is masked. -/
theorem not_infix_maskFrom (hne : secret ≠ []) (hsecret : star ∉ secret) (skip : Nat) :
    ¬ secret <:+: maskFrom secret skip text := by
  induction text generalizing skip with
  | nil =>
      intro h
      cases skip <;> exact hne (List.infix_nil.mp h)
  | cons c text ih =>
      cases skip with
      | succ skip => exact ih skip
      | zero =>
          intro h
          rw [maskFrom] at h
          split at h
          · exact ih _ (infix_of_infix_mask hsecret h)
          · next hkept =>
            rcases List.infix_cons_iff.mp h with hbegins | h
            · -- it would have been masked where it begins
              have hprefix : secret <+: maskFrom secret 0 (c :: text) := by
                rw [maskFrom, if_neg hkept]
                exact hbegins
              exact hkept (List.isPrefixOf_iff_prefix.mpr
                (prefix_of_prefix_maskFrom hsecret hprefix))
            · exact ih 0 h

/-! ## All secrets -/

theorem maskSecret_of_ne_nil (hne : secret ≠ []) (text : List Nat) :
    maskSecret secret text = maskFrom secret 0 text := by
  unfold maskSecret
  rw [if_neg (by simpa using hne)]

theorem infix_of_infix_foldl {secrets : List CodeString}
    (hne : ∀ secret ∈ secrets, secret.codes ≠ [])
    (hpart : star ∉ part)
    (h : part <:+: secrets.foldl (fun text secret => maskSecret secret.codes text) text) :
    part <:+: text := by
  induction secrets generalizing text with
  | nil => exact h
  | cons first secrets ih =>
      obtain ⟨hfirst, hothers⟩ := List.forall_mem_cons.mp hne
      have hmasked : part <:+: maskSecret first.codes text := ih hothers h
      rw [maskSecret_of_ne_nil hfirst] at hmasked
      exact infix_of_infix_maskFrom hpart hmasked

theorem not_infix_foldl {secrets : List CodeString} (hne : ∀ secret ∈ secrets, secret.codes ≠ [])
    {secret : CodeString} (hmem : secret ∈ secrets) (hsecret : star ∉ secret.codes) :
    ¬ secret.codes <:+: secrets.foldl (fun text secret => maskSecret secret.codes text) text := by
  induction secrets generalizing text with
  | nil => exact absurd hmem List.not_mem_nil
  | cons first secrets ih =>
      obtain ⟨hfirst, hothers⟩ := List.forall_mem_cons.mp hne
      rcases List.mem_cons.mp hmem with rfl | hmem
      · intro h
        have hmasked : secret.codes <:+: maskSecret secret.codes text :=
          infix_of_infix_foldl hothers hsecret h
        rw [maskSecret_of_ne_nil hfirst] at hmasked
        exact not_infix_maskFrom hfirst hsecret 0 hmasked
      · exact ih hothers hmem

/-- No secret without a star is left in a redacted text. -/
theorem not_infix_redact {secrets : List CodeString} (hne : ∀ secret ∈ secrets, secret.codes ≠ [])
    {secret : CodeString} (hmem : secret ∈ secrets) (hsecret : star ∉ secret.codes)
    (text : CodeString) :
    ¬ secret.codes <:+: (redact text secrets).codes := by
  unfold redact redactCodes
  rw [CodeString.codes_ofCodes]
  exact not_infix_foldl (fun other hother => hne other (List.mem_mergeSort.mp hother))
    (List.mem_mergeSort.mpr hmem) hsecret

/-! ## Redactors -/

namespace Redactor

/-- The redactor holds no secrets that are too short. -/
def IsProper (redactor : Redactor) : Prop :=
  ∀ secret ∈ redactor.secrets, minLength ≤ secret.length

theorem isProper_empty : empty.IsProper :=
  fun _ hsecret => absurd hsecret List.not_mem_nil

theorem IsProper.add {redactor : Redactor} (h : redactor.IsProper) (secrets : List CodeString) :
    (redactor.add secrets).IsProper := by
  intro secret hsecret
  rcases mem_secrets_add.mp hsecret with hheld | ⟨-, hlong⟩
  · exact h secret hheld
  · exact hlong

/-- No held secret without a star is left in a text. -/
theorem IsProper.not_infix_redact {redactor : Redactor} (h : redactor.IsProper)
    {secret : CodeString}
    (hheld : secret ∈ redactor.secrets) (hsecret : star ∉ secret.codes) (text : CodeString) :
    ¬ secret.codes <:+: (redactor.redact text).codes := by
  refine Log.not_infix_redact (fun other hother hnil => ?_) hheld hsecret text
  have hlong := h other hother
  rw [CodeString.length, hnil] at hlong
  exact absurd hlong (by decide)

end Redactor

end QueryBridge.Log
