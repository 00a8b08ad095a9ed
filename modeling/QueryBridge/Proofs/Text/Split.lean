import Mathlib.Data.List.TakeWhile
import QueryBridge.Text.Split

/-!
# Splitting and joining

A text is either a single part or a part, the separator, and a text again; `splitOn` follows
this shape, and so do inductions over the parts.
-/

namespace QueryBridge.Text

variable {α : Type} [DecidableEq α] {separator : α}

theorem splitOn_ne_nil (separator : α) (text : List α) : splitOn separator text ≠ [] := by
  cases text with
  | nil => simp [splitOn]
  | cons c text =>
      rw [splitOn]
      split
      · simp
      · split <;> simp

theorem splitOn_of_not_mem {text : List α} (h : separator ∉ text) :
    splitOn separator text = [text] := by
  induction text with
  | nil => rfl
  | cons c text ih =>
      simp only [List.mem_cons, not_or] at h
      rw [splitOn, if_neg (Ne.symm h.1), ih h.2]

theorem splitOn_append_cons {first : List α} (h : separator ∉ first) (rest : List α) :
    splitOn separator (first ++ separator :: rest) = first :: splitOn separator rest := by
  induction first with
  | nil => rw [List.nil_append, splitOn, if_pos rfl]
  | cons c first ih =>
      simp only [List.mem_cons, not_or] at h
      rw [List.cons_append, splitOn, if_neg (Ne.symm h.1), ih h.2]

/-- Induction over the parts of a text. -/
theorem induction_on_parts (separator : α) {motive : List α → Prop} (text : List α)
    (single : ∀ first, separator ∉ first → motive first)
    (more : ∀ first rest, separator ∉ first → motive rest → motive (first ++ separator :: rest)) :
    motive text := by
  by_cases h : separator ∈ text
  · obtain ⟨first, rest, heq, hfirst⟩ := List.eq_append_cons_of_mem h
    have hrest := induction_on_parts separator rest single more
    rw [heq]
    exact more first rest hfirst hrest
  · exact single text h
termination_by text.length
decreasing_by
  rw [heq, List.length_append, List.length_cons]
  omega

theorem not_mem_of_mem_splitOn {text part : List α} (h : part ∈ splitOn separator text) :
    separator ∉ part := by
  induction text using induction_on_parts separator with
  | single first hfirst =>
      rw [splitOn_of_not_mem hfirst, List.mem_singleton] at h
      rw [h]
      exact hfirst
  | more first rest hfirst ih =>
      rw [splitOn_append_cons hfirst] at h
      rcases List.mem_cons.mp h with rfl | h
      · exact hfirst
      · exact ih h

theorem mem_of_mem_splitOn {text part : List α} (h : part ∈ splitOn separator text) {c : α}
    (hc : c ∈ part) : c ∈ text := by
  induction text using induction_on_parts separator with
  | single first hfirst =>
      rw [splitOn_of_not_mem hfirst, List.mem_singleton] at h
      exact h ▸ hc
  | more first rest hfirst ih =>
      rw [splitOn_append_cons hfirst] at h
      rcases List.mem_cons.mp h with rfl | h
      · exact List.mem_append_left _ hc
      · exact List.mem_append_right _ (List.mem_cons_of_mem separator (ih h))

/-- Parts without the separator are what a text that joins them is split into. -/
theorem splitOn_intercalate {parts : List (List α)} (hparts : parts ≠ [])
    (h : ∀ part ∈ parts, separator ∉ part) :
    splitOn separator ([separator].intercalate parts) = parts := by
  induction parts with
  | nil => exact absurd rfl hparts
  | cons part parts ih =>
      have hpart : separator ∉ part := h part List.mem_cons_self
      cases parts with
      | nil => rw [List.intercalate_singleton, splitOn_of_not_mem hpart]
      | cons next parts =>
          rw [List.intercalate_cons_cons, List.append_assoc, List.singleton_append,
            splitOn_append_cons hpart, ih (List.cons_ne_nil next parts) fun other hother =>
              h other (List.mem_cons_of_mem part hother)]

/-- The parts of a text, joined, are the text. -/
theorem intercalate_splitOn (separator : α) (text : List α) :
    [separator].intercalate (splitOn separator text) = text := by
  induction text using induction_on_parts separator with
  | single first hfirst => rw [splitOn_of_not_mem hfirst, List.intercalate_singleton]
  | more first rest hfirst ih =>
      rw [splitOn_append_cons hfirst]
      cases hparts : splitOn separator rest with
      | nil => exact absurd hparts (splitOn_ne_nil separator rest)
      | cons next others =>
          rw [hparts] at ih
          rw [List.intercalate_cons_cons, ih, List.append_assoc, List.singleton_append]

omit [DecidableEq α] in
theorem append_intercalate_cons (separator : α) (text part : List α)
    (parts : List (List α)) :
    text ++ [separator].intercalate (part :: parts) =
      [separator].intercalate ((text ++ part) :: parts) := by
  cases parts with
  | nil => rw [List.intercalate_singleton, List.intercalate_singleton]
  | cons next parts =>
      rw [List.intercalate_cons_cons, List.intercalate_cons_cons, List.append_assoc,
        List.append_assoc, List.append_assoc]

omit [DecidableEq α] in
theorem mem_intercalate {parts : List (List α)} {c : α}
    (h : c ∈ [separator].intercalate parts) : c = separator ∨ ∃ part ∈ parts, c ∈ part := by
  induction parts with
  | nil => exact absurd h List.not_mem_nil
  | cons part parts ih =>
      cases parts with
      | nil =>
          rw [List.intercalate_singleton] at h
          exact Or.inr ⟨part, List.mem_cons_self, h⟩
      | cons next others =>
          rw [List.intercalate_cons_cons, List.mem_append, List.mem_append,
            List.mem_singleton] at h
          rcases h with (hfirst | hseparator) | hrest
          · exact Or.inr ⟨part, List.mem_cons_self, hfirst⟩
          · exact Or.inl hseparator
          · rcases ih hrest with hseparator | ⟨other, hother, hc⟩
            · exact Or.inl hseparator
            · exact Or.inr ⟨other, List.mem_cons_of_mem part hother, hc⟩

/-- A text of joined parts, cut off at the first mark, is split into the parts before the one
that holds it and what this part has in front of it. -/
theorem splitOn_takeWhile_intercalate {mark : α} (hmark : mark ≠ separator)
    {before after : List (List α)} {part : List α}
    (hbefore : ∀ other ∈ before, separator ∉ other ∧ mark ∉ other) (hpart : separator ∉ part)
    (hmem : mark ∈ part) :
    splitOn separator (([separator].intercalate (before ++ part :: after)).takeWhile (· != mark)) =
      before ++ [part.takeWhile (· != mark)] := by
  induction before with
  | nil =>
      obtain ⟨first, rest, rfl, hfirst⟩ := List.eq_append_cons_of_mem hmem
      have hkept : ∀ c ∈ first, (c != mark) = true := by
        intro c hc
        simpa using fun heq : c = mark => hfirst (heq ▸ hc)
      have hcut : ∀ text : List α, (first ++ mark :: text).takeWhile (· != mark) = first := by
        intro text
        rw [List.takeWhile_append_of_pos hkept, List.takeWhile_cons_of_neg (by simp),
          List.append_nil]
      obtain ⟨text, htext⟩ : ∃ text, [separator].intercalate ((first ++ mark :: rest) :: after) =
          first ++ mark :: text := by
        cases after with
        | nil => exact ⟨rest, List.intercalate_singleton⟩
        | cons next others =>
            rw [List.intercalate_cons_cons]
            exact ⟨_, by rw [List.append_assoc, List.append_assoc, List.cons_append]⟩
      rw [List.nil_append, htext, hcut, hcut, List.nil_append]
      exact splitOn_of_not_mem fun hseparator => hpart (List.mem_append_left _ hseparator)
  | cons other before ih =>
      obtain ⟨⟨hother, hnone⟩, hbefore⟩ := List.forall_mem_cons.mp hbefore
      have hkept : ∀ c ∈ other ++ [separator], (c != mark) = true := by
        intro c hc
        rcases List.mem_append.mp hc with hc | hc
        · simpa using fun heq : c = mark => hnone (heq ▸ hc)
        · rw [List.mem_singleton.mp hc]
          simpa using hmark.symm
      obtain ⟨next, others, hnext⟩ : ∃ next others, before ++ part :: after = next :: others :=
        List.exists_cons_of_ne_nil (List.append_ne_nil_of_right_ne_nil _ (List.cons_ne_nil _ _))
      rw [List.cons_append, hnext, List.intercalate_cons_cons, ← hnext,
        List.takeWhile_append_of_pos hkept, List.append_assoc, List.singleton_append,
        splitOn_append_cons hother, ih hbefore, List.cons_append]

theorem splitOn_append_separator (separator : α) (first rest : List α) :
    splitOn separator (first ++ separator :: rest) =
      splitOn separator first ++ splitOn separator rest := by
  induction first using induction_on_parts separator with
  | single first hfirst =>
      rw [splitOn_append_cons hfirst, splitOn_of_not_mem hfirst, List.singleton_append]
  | more first second hfirst ih =>
      rw [List.append_assoc, List.cons_append, splitOn_append_cons hfirst, ih,
        splitOn_append_cons hfirst, List.cons_append]

/-! ## Cutting at the first separator -/

theorem cutAt_append_cons {first : List α} (h : separator ∉ first) (rest : List α) :
    cutAt separator (first ++ separator :: rest) = (first, rest) := by
  have hall : ∀ c ∈ first, (c != separator) = true := by
    intro c hc
    simpa using fun heq : c = separator => h (heq ▸ hc)
  unfold cutAt
  rw [List.takeWhile_append_of_pos hall, List.dropWhile_append_of_pos hall]
  simp

theorem cutAt_of_not_mem {text : List α} (h : separator ∉ text) :
    cutAt separator text = (text, []) := by
  have hall : ∀ c ∈ text, (c != separator) = true := by
    intro c hc
    simpa using fun heq : c = separator => h (heq ▸ hc)
  unfold cutAt
  rw [List.takeWhile_eq_self_iff.mpr hall, List.dropWhile_eq_nil_iff.mpr hall]
  rfl

/-- Pairs that are written with a mark inside and separators between them are read back. -/
theorem map_cutAt_splitOn_intercalate {mark : α} (hmark : mark ≠ separator)
    {pairs : List (List α × List α)}
    (h : ∀ pair ∈ pairs, separator ∉ pair.1 ∧ mark ∉ pair.1 ∧ separator ∉ pair.2) :
    ((splitOn separator ([separator].intercalate
      (pairs.map fun pair => pair.1 ++ mark :: pair.2))).filter (!·.isEmpty)).map (cutAt mark) =
      pairs := by
  by_cases hpairs : pairs = []
  · rw [hpairs]
    rfl
  · have hparts : pairs.map (fun pair => pair.1 ++ mark :: pair.2) ≠ [] :=
      mt List.map_eq_nil_iff.mp hpairs
    have hseparate : ∀ part ∈ pairs.map (fun pair => pair.1 ++ mark :: pair.2),
        separator ∉ part := by
      intro part hpart
      obtain ⟨pair, hpair, rfl⟩ := List.mem_map.mp hpart
      rw [List.mem_append, List.mem_cons]
      rintro (hfirst | heq | hsecond)
      · exact (h pair hpair).1 hfirst
      · exact hmark heq.symm
      · exact (h pair hpair).2.2 hsecond
    -- every part has a mark, so none of them is dropped
    have hkept : (pairs.map fun pair => pair.1 ++ mark :: pair.2).filter (!·.isEmpty) =
        pairs.map fun pair => pair.1 ++ mark :: pair.2 := by
      rw [List.filter_eq_self]
      intro part hpart
      obtain ⟨pair, -, rfl⟩ := List.mem_map.mp hpart
      simp
    rw [splitOn_intercalate hparts hseparate, hkept, List.map_map]
    refine (List.map_congr_left fun pair hpair => ?_).trans (List.map_id pairs)
    rw [Function.comp_apply, cutAt_append_cons (h pair hpair).2.1, id_eq]

/-! ## Texts over another alphabet -/

section

variable {β : Type} [DecidableEq β] {f : α → β}

theorem splitOn_map (hf : Function.Injective f) (separator : α) (text : List α) :
    splitOn (f separator) (text.map f) = (splitOn separator text).map (List.map f) := by
  induction text with
  | nil => rfl
  | cons c text ih =>
      rw [List.map_cons, splitOn, splitOn, ih]
      by_cases heq : c = separator
      · rw [if_pos heq, if_pos (congrArg f heq), List.map_cons, List.map_nil]
      · rw [if_neg heq, if_neg (hf.ne heq)]
        cases splitOn separator text <;> rfl

theorem cutAt_map (hf : Function.Injective f) (separator : α) (text : List α) :
    cutAt (f separator) (text.map f) =
      ((cutAt separator text).1.map f, (cutAt separator text).2.map f) := by
  have hsame : (fun c => c != f separator) ∘ f = fun c => c != separator := by
    funext c
    rw [Function.comp_apply, Bool.eq_iff_iff, bne_iff_ne, bne_iff_ne, hf.ne_iff]
  unfold cutAt
  rw [List.takeWhile_map, List.dropWhile_map, hsame, List.map_drop]

end

end QueryBridge.Text
