import Mathlib.Data.List.DropRight
import QueryBridge.Text.Blank

/-!
# Trimmed texts

Trimming takes a run of blanks away at each end and leaves a text that neither begins nor ends
with a blank.  There is only one such text.
-/

namespace QueryBridge.Text

/-! ## Dropped ends -/

section

variable {α : Type} (p : α → Bool)

theorem dropEndWhile_eq_rdropWhile (text : List α) : dropEndWhile p text = text.rdropWhile p := rfl

theorem head?_dropEndWhile_dropWhile (text : List α) :
    ∀ c ∈ (dropEndWhile p (text.dropWhile p)).head?, p c = false := by
  intro c hc
  -- the text begins as it did before its end was dropped
  obtain ⟨rest, hrest⟩ := List.rdropWhile_prefix p (text.dropWhile p)
  have hhead : (text.dropWhile p).head? = some c := by
    rw [← hrest, List.head?_append, ← dropEndWhile_eq_rdropWhile, Option.mem_def.mp hc]
    rfl
  have hnot := List.head?_dropWhile_not p text
  rw [hhead] at hnot
  exact hnot

theorem getLast?_dropEndWhile (text : List α) :
    ∀ c ∈ (dropEndWhile p text).getLast?, p c = false := by
  intro c hc
  obtain ⟨hne, hlast⟩ := List.mem_getLast?_eq_getLast hc
  rw [hlast]
  exact Bool.eq_false_iff.mpr (List.rdropWhile_last_not p text hne)

theorem mem_of_mem_dropEndWhile_dropWhile {c : α} {text : List α}
    (h : c ∈ dropEndWhile p (text.dropWhile p)) : c ∈ text :=
  (List.dropWhile_sublist p).subset ((List.rdropWhile_prefix p _).subset h)

variable {p}

theorem dropWhile_of_head? {text : List α} (h : ∀ c ∈ text.head?, p c = false) :
    text.dropWhile p = text := by
  cases text with
  | nil => rfl
  | cons c text => simp [h c rfl]

/-- Nothing is dropped from a text that neither begins nor ends with a sign satisfying `p`. -/
theorem dropEndWhile_dropWhile_of_ends {text : List α} (hhead : ∀ c ∈ text.head?, p c = false)
    (hlast : ∀ c ∈ text.getLast?, p c = false) : dropEndWhile p (text.dropWhile p) = text := by
  rw [dropWhile_of_head? hhead, dropEndWhile, dropWhile_of_head?, List.reverse_reverse]
  rwa [List.head?_reverse]

end

/-! ## Trimming -/

theorem trimCodes_map_toNat (text : List Char) :
    trimCodes (text.map Char.toNat) = (trimChars text).map Char.toNat := by
  have hsame : isBlankCode ∘ Char.toNat = isBlank := rfl
  unfold trimCodes trimChars dropEndWhile
  rw [List.dropWhile_map, hsame, ← List.map_reverse, List.dropWhile_map, hsame, List.map_reverse]

def IsBlankRun (text : List Char) : Prop :=
  ∀ c ∈ text, isBlank c = true

instance (text : List Char) : Decidable (IsBlankRun text) :=
  decidable_of_iff (text.all isBlank = true) List.all_eq_true

/-- `inner` is what is left of a text without the blanks at its two ends. -/
structure IsTrimmed (text inner : List Char) : Prop where
  surrounded : ∃ before after, IsBlankRun before ∧ IsBlankRun after ∧
    text = before ++ inner ++ after
  head_not_blank : ∀ c ∈ inner.head?, isBlank c = false
  last_not_blank : ∀ c ∈ inner.getLast?, isBlank c = false

theorem isTrimmed_trimChars (text : List Char) : IsTrimmed text (trimChars text) := by
  refine ⟨?_, head?_dropEndWhile_dropWhile isBlank text, getLast?_dropEndWhile isBlank _⟩
  unfold trimChars
  rw [dropEndWhile_eq_rdropWhile]
  refine ⟨text.takeWhile isBlank, (text.dropWhile isBlank).rtakeWhile isBlank,
    fun c hc => List.mem_takeWhile_imp hc, fun c hc => List.mem_rtakeWhile_imp hc, ?_⟩
  rw [List.append_assoc, List.rdropWhile_append_rtakeWhile, List.takeWhile_append_dropWhile]

theorem dropWhile_append_of_isBlankRun {run rest : List Char} (hrun : IsBlankRun run)
    (hhead : ∀ c ∈ rest.head?, isBlank c = false) : (run ++ rest).dropWhile isBlank = rest := by
  rw [List.dropWhile_append_of_pos hrun, dropWhile_of_head? hhead]

/-- Only one text is left when the blanks at the ends are taken away. -/
theorem IsTrimmed.trimChars_eq {text inner : List Char} (h : IsTrimmed text inner) :
    trimChars text = inner := by
  obtain ⟨before, after, hbefore, hafter, rfl⟩ := h.surrounded
  cases inner with
  | nil =>
      have hall : IsBlankRun (before ++ after) := fun c hc =>
        (List.mem_append.mp hc).elim (hbefore c) (hafter c)
      rw [trimChars, List.append_nil, List.dropWhile_eq_nil_iff.mpr hall]
      rfl
  | cons c inner =>
      have hstart : (before ++ c :: inner ++ after).dropWhile isBlank = c :: inner ++ after := by
        rw [List.append_assoc]
        exact dropWhile_append_of_isBlankRun hbefore h.head_not_blank
      have hend : (after.reverse ++ (c :: inner).reverse).dropWhile isBlank =
          (c :: inner).reverse := by
        apply dropWhile_append_of_isBlankRun
        · exact fun d hd => hafter d (List.mem_reverse.mp hd)
        · intro d hd
          rw [List.head?_reverse] at hd
          exact h.last_not_blank d hd
      rw [trimChars, hstart, dropEndWhile, List.reverse_append, hend, List.reverse_reverse]

theorem isBlankRun_iff_trimChars {text : List Char} :
    IsBlankRun text ↔ trimChars text = [] := by
  constructor
  · intro h
    rw [trimChars, List.dropWhile_eq_nil_iff.mpr h]
    rfl
  · intro h
    obtain ⟨before, after, hbefore, hafter, heq⟩ := (isTrimmed_trimChars text).surrounded
    rw [h, List.append_nil] at heq
    rw [heq]
    exact fun c hc => (List.mem_append.mp hc).elim (hbefore c) (hafter c)

/-- Trimming changes nothing exactly if there are no blanks at the ends. -/
theorem isTrimmed_self_iff {text : List Char} : IsTrimmed text text ↔ trimChars text = text := by
  refine ⟨IsTrimmed.trimChars_eq, fun h => ?_⟩
  have htrimmed := isTrimmed_trimChars text
  rwa [h] at htrimmed

end QueryBridge.Text
