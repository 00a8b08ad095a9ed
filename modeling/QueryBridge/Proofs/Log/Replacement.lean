import Mathlib.Data.List.Permutation
import QueryBridge.Proofs.Log.Coverage

/-!
# What redaction replaces

A redacted text is the text with the mask in the places of some occurrences of secrets that do
not overlap, and with everything between them as it was.  Masking one secret after the other
keeps this form: a secret without a star can only be found in what has been kept so far.
-/

namespace QueryBridge.Log

/-- The text with the mask in the places of some secrets, all else being kept. -/
inductive IsMasked (secrets : List CodeString) : List Nat → List Nat → Prop
  | nil : IsMasked secrets [] []
  | keep (c : Nat) {text masked : List Nat} :
      IsMasked secrets text masked → IsMasked secrets (c :: text) (c :: masked)
  | cover {secret : CodeString} (hsecret : secret ∈ secrets) {text masked : List Nat} :
      IsMasked secrets text masked → IsMasked secrets (secret.codes ++ text) (mask ++ masked)

variable {secrets : List CodeString} {text masked : List Nat}

theorem isMasked_self (secrets : List CodeString) (text : List Nat) :
    IsMasked secrets text text := by
  induction text with
  | nil => exact .nil
  | cons c text ih => exact .keep c ih

/-- A beginning without a star has been kept. -/
theorem IsMasked.of_append {part : List Nat} (hpart : star ∉ part)
    (h : IsMasked secrets text (part ++ masked)) :
    ∃ rest, text = part ++ rest ∧ IsMasked secrets rest masked := by
  induction part generalizing text with
  | nil => exact ⟨text, rfl, h⟩
  | cons c part ih =>
      rw [List.mem_cons, not_or] at hpart
      rw [List.cons_append] at h
      generalize hmasked : c :: (part ++ masked) = whole at h
      cases h with
      | nil => cases hmasked
      | keep _ h =>
          cases hmasked
          obtain ⟨rest, rfl, hrest⟩ := ih hpart.2 h
          exact ⟨rest, rfl, hrest⟩
      | cover =>
          -- what covers a secret begins with a star
          exact absurd (List.cons.inj hmasked).1.symm hpart.1

/-! ## One secret -/

theorem maskFrom_eq_maskFrom_drop (secret : List Nat) (skip : Nat) (text : List Nat) :
    maskFrom secret skip text = maskFrom secret 0 (text.drop skip) := by
  induction skip generalizing text with
  | zero => rfl
  | succ skip ih =>
      cases text with
      | nil => rfl
      | cons c text => exact ih text

theorem maskFrom_append {secret : List Nat} (hne : secret ≠ []) (text : List Nat) :
    maskFrom secret 0 (secret ++ text) = mask ++ maskFrom secret 0 text := by
  cases secret with
  | nil => exact absurd rfl hne
  | cons c secret =>
      have hbegins : (c :: secret).isPrefixOf (c :: (secret ++ text)) = true :=
        List.isPrefixOf_iff_prefix.mpr (List.prefix_append (c :: secret) text)
      rw [List.cons_append, maskFrom, hbegins, if_pos rfl, maskFrom_eq_maskFrom_drop]
      simp

/-- The mask itself is passed over. -/
theorem maskFrom_mask_append {secret : List Nat} (hne : secret ≠ []) (hsecret : star ∉ secret)
    (text : List Nat) : maskFrom secret 0 (mask ++ text) = mask ++ maskFrom secret 0 text := by
  have hstar (text : List Nat) :
      maskFrom secret 0 (star :: text) = star :: maskFrom secret 0 text := by
    rw [maskFrom, if_neg]
    rw [List.isPrefixOf_iff_prefix]
    intro hbegins
    rcases List.prefix_cons_iff.mp hbegins with rfl | ⟨rest, rfl, -⟩
    · exact hne rfl
    · exact hsecret List.mem_cons_self
  simp only [mask, List.cons_append, List.nil_append, hstar]

/-- Masking one more secret leaves a text in the same form. -/
theorem IsMasked.maskFrom {secret : CodeString} (hmem : secret ∈ secrets) (hne : secret.codes ≠ [])
    (hsecret : star ∉ secret.codes) (h : IsMasked secrets text masked) :
    IsMasked secrets text (maskFrom secret.codes 0 masked) := by
  induction hlength : masked.length using Nat.strongRecOn generalizing text masked with
  | ind length ih =>
      by_cases hbegins : secret.codes <+: masked
      · -- the secret stands here, in what has been kept
        obtain ⟨rest, rfl⟩ := hbegins
        obtain ⟨behind, rfl, hbehind⟩ := h.of_append hsecret
        rw [maskFrom_append hne]
        refine .cover hmem (ih rest.length ?_ hbehind rfl)
        rw [← hlength, List.length_append]
        exact Nat.lt_add_of_pos_left (List.length_pos_iff.mpr hne)
      · cases h with
        | nil => exact .nil
        | keep c h =>
            rw [Log.maskFrom, if_neg (by rwa [List.isPrefixOf_iff_prefix])]
            exact .keep c (ih _ (by rw [← hlength]; exact Nat.lt_succ_self _) h rfl)
        | cover hother h =>
            rw [maskFrom_mask_append hne hsecret]
            refine .cover hother (ih _ ?_ h rfl)
            rw [← hlength, List.length_append]
            exact Nat.lt_add_of_pos_left (by decide)

/-! ## All secrets -/

theorem isMasked_foldl {order : List CodeString} (hmem : ∀ secret ∈ order, secret ∈ secrets)
    (hne : ∀ secret ∈ secrets, secret.codes ≠ []) (hstar : ∀ secret ∈ secrets, star ∉ secret.codes)
    (h : IsMasked secrets text masked) :
    IsMasked secrets text
      (order.foldl (fun text secret => maskSecret secret.codes text) masked) := by
  induction order generalizing masked with
  | nil => exact h
  | cons secret order ih =>
      obtain ⟨hsecret, horder⟩ := List.forall_mem_cons.mp hmem
      rw [List.foldl_cons, maskSecret_of_ne_nil (hne secret hsecret)]
      exact ih horder (h.maskFrom hsecret (hne secret hsecret) (hstar secret hsecret))

/-- Redaction puts the mask in the places of secrets and keeps all else.  None of the secrets
is left, so redacting again changes nothing, and neither does redacting a text without them. -/
theorem redact_leaves_no_secret (text : CodeString) (secrets : List CodeString)
    (hne : ∀ secret ∈ secrets, secret ≠ "") (hstar : ∀ secret ∈ secrets, star ∉ secret.codes) :
    (∀ secret ∈ secrets, ¬ secret.codes <:+: (redact text secrets).codes) ∧
      redact (redact text secrets) secrets = redact text secrets ∧
      ((∀ secret ∈ secrets, ¬ secret.codes <:+: text.codes) → redact text secrets = text) ∧
      IsMasked secrets text.codes (redact text secrets).codes := by
  have hnonempty : ∀ secret ∈ secrets, secret.codes ≠ [] := fun secret hsecret hnil =>
    hne secret hsecret (CodeString.codes_eq_nil_iff.mp hnil)
  have hleft : ∀ secret ∈ secrets, ¬ secret.codes <:+: (redact text secrets).codes :=
    fun secret hsecret => not_infix_redact hnonempty hsecret (hstar secret hsecret) text
  refine ⟨hleft, redact_of_not_infix hleft, redact_of_not_infix, ?_⟩
  unfold redact redactCodes
  rw [CodeString.codes_ofCodes]
  exact isMasked_foldl (fun secret hsecret => List.mem_mergeSort.mp hsecret) hnonempty hstar
    (isMasked_self secrets text.codes)

/-- Secrets that overlap, contain one another and repeat. -/
theorem redact_overlapping_secrets :
    redact "xabcdabcx bcda" ["cda", "ab", "abcd", "bcx", "ab"] = "x***a*** b***" ∧
      ∀ secret ∈ (["cda", "ab", "abcd", "bcx", "ab"] : List CodeString),
        ¬ secret.codes <:+: (redact "xabcdabcx bcda" ["cda", "ab", "abcd", "bcx", "ab"]).codes := by
  have hlongest : byLength ["cda", "ab", "abcd", "bcx", "ab"] =
      (["abcd", "cda", "bcx", "ab", "ab"] : List CodeString) := by
    simp [byLength, List.mergeSort, List.MergeSort.Internal.splitInTwo, CodeString.length,
      CodeString.codes]
  have hmasked : redact "xabcdabcx bcda" ["cda", "ab", "abcd", "bcx", "ab"] =
      "x***a*** b***" := by
    rw [redact, redactCodes, hlongest]
    decide +kernel
  exact ⟨hmasked, (redact_leaves_no_secret "xabcdabcx bcda" ["cda", "ab", "abcd", "bcx", "ab"]
    (by decide) (by decide)).1⟩

end QueryBridge.Log
