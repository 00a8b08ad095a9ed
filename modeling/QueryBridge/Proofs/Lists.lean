import Mathlib.Data.List.Forall2

/-!
# Lists that grow at their end

Histories grow at their end.  A position in the longer list is the last one or one in the
shorter list; and lists whose members correspond still do when corresponding members are added.
A beginning of a list that lacks a member ends in front of it.
-/

namespace QueryBridge

variable {α β : Type}

/-- Splitting a list at its last member or before it. -/
theorem exists_split_concat_iff {items : List α} {last : α} {P : List α → α → List α → Prop} :
    (∃ before item later, items ++ [last] = before ++ item :: later ∧ P before item later) ↔
      P items last [] ∨
        ∃ before item later, items = before ++ item :: later ∧ P before item (later ++ [last]) := by
  constructor
  · rintro ⟨before, item, later, hsplit, h⟩
    rcases List.eq_nil_or_concat later with rfl | ⟨later, other, rfl⟩
    · obtain ⟨rfl, hlast⟩ := List.append_inj' hsplit rfl
      cases hlast
      exact Or.inl h
    · rw [List.concat_eq_append] at hsplit h
      rw [← List.cons_append, ← List.append_assoc] at hsplit
      obtain ⟨rfl, hlast⟩ := List.append_inj' hsplit rfl
      cases hlast
      exact Or.inr ⟨before, item, later, rfl, h⟩
  · rintro (h | ⟨before, item, later, rfl, h⟩)
    · exact ⟨items, last, [], rfl, h⟩
    · exact ⟨before, item, later ++ [last], by simp, h⟩

/-- A beginning without a member lies in front of it. -/
theorem prefix_of_prefix_append_cons {part front rest : List α} {a : α} (h : a ∉ part)
    (hpart : part <+: front ++ a :: rest) : part <+: front := by
  induction front generalizing part with
  | nil =>
      rcases List.prefix_cons_iff.mp hpart with rfl | ⟨rest, rfl, -⟩
      · exact List.nil_prefix
      · exact absurd List.mem_cons_self h
  | cons b front ih =>
      rcases List.prefix_cons_iff.mp hpart with rfl | ⟨rest, rfl, hrest⟩
      · exact List.nil_prefix
      · have hlater : a ∉ rest := fun hmem => h (List.mem_cons_of_mem b hmem)
        exact List.cons_prefix_cons.mpr ⟨rfl, ih hlater hrest⟩

/-- In a list that goes down, the members in front of one of them are those that are greater. -/
theorem exists_eq_append_cons_iff_of_pairwise {P : α → Prop} {f : α → Nat} {items : List α} {a : α}
    (h : items.Pairwise fun a b => f b < f a) :
    (∃ before after, items = before ++ a :: after ∧ ∀ other ∈ before, P other) ↔
      a ∈ items ∧ ∀ other ∈ items, f a < f other → P other := by
  constructor
  · rintro ⟨before, after, rfl, hbefore⟩
    refine ⟨List.mem_append_right before List.mem_cons_self, fun other hother hlt => ?_⟩
    rcases List.mem_append.mp hother with hfront | hrest
    · exact hbefore other hfront
    · -- what follows is not greater
      rcases List.mem_cons.mp hrest with rfl | hlater
      · exact absurd hlt (Nat.lt_irrefl _)
      · have hdown := (List.pairwise_append.mp h).2.1
        rw [List.pairwise_cons] at hdown
        exact absurd hlt (Nat.lt_asymm (hdown.1 other hlater))
  · rintro ⟨hmem, hgreater⟩
    obtain ⟨before, after, rfl⟩ := List.append_of_mem hmem
    refine ⟨before, after, rfl, fun other hother => ?_⟩
    have hlt : f a < f other :=
      (List.pairwise_append.mp h).2.2 other hother a List.mem_cons_self
    exact hgreater other (List.mem_append_left _ hother) hlt

variable {R : α → β → Prop} {first : List α} {second : List β}

theorem rel_getElem?_of_forall₂ (h : List.Forall₂ R first second) (index : Nat) :
    Option.Rel R first[index]? second[index]? := by
  induction h generalizing index with
  | nil => exact .none
  | cons hhead htail ih =>
      cases index with
      | zero => exact .some hhead
      | succ index => exact ih index

theorem exists_mem_of_forall₂ (h : List.Forall₂ R first second) {b : β} (hb : b ∈ second) :
    ∃ a ∈ first, R a b := by
  induction h with
  | nil => exact absurd hb List.not_mem_nil
  | cons hhead htail ih =>
      rcases List.mem_cons.mp hb with rfl | hrest
      · exact ⟨_, List.mem_cons_self, hhead⟩
      · obtain ⟨a, ha, hrel⟩ := ih hrest
        exact ⟨a, List.mem_cons_of_mem _ ha, hrel⟩

theorem rel_find?_of_forall₂ (h : List.Forall₂ R first second) {p : α → Bool} {q : β → Bool}
    (hsame : ∀ a b, R a b → q b = p a) :
    Option.Rel R (first.find? p) (second.find? q) := by
  induction h with
  | nil => exact .none
  | @cons a b rest others hhead htail ih =>
      rw [List.find?_cons, List.find?_cons, hsame a b hhead]
      cases p a
      · exact ih
      · exact .some hhead

theorem findIdx?_eq_of_forall₂ (h : List.Forall₂ R first second) {p : α → Bool} {q : β → Bool}
    (hsame : ∀ a b, R a b → q b = p a) : second.findIdx? q = first.findIdx? p := by
  induction h with
  | nil => rfl
  | @cons a b rest others hhead htail ih =>
      rw [List.findIdx?_cons, List.findIdx?_cons, hsame a b hhead, ih]

theorem forall₂_concat (h : List.Forall₂ R first second) {a : α} {b : β} (hlast : R a b) :
    List.Forall₂ R (first ++ [a]) (second ++ [b]) :=
  List.rel_append h (.cons hlast .nil)

theorem forall₂_concat_iff {a : α} :
    List.Forall₂ R (first ++ [a]) second ↔
      ∃ front b, List.Forall₂ R first front ∧ R a b ∧ second = front ++ [b] := by
  constructor
  · intro h
    rw [← List.forall₂_reverse_iff, List.reverse_append, List.reverse_singleton,
      List.singleton_append] at h
    obtain ⟨b, rest, hlast, hrest, heq⟩ := List.forall₂_cons_left_iff.mp h
    refine ⟨rest.reverse, b, ?_, hlast, ?_⟩
    · rwa [← List.forall₂_reverse_iff, List.reverse_reverse]
    · rw [← List.reverse_reverse second, heq, List.reverse_cons]
  · rintro ⟨front, b, hfront, hlast, rfl⟩
    exact forall₂_concat hfront hlast

end QueryBridge
