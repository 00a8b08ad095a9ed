import QueryBridge.Proofs.Template.Locality
import QueryBridge.Proofs.Template.Resolution

/-!
# Where placeholders stand

An occurrence is a placeholder of a template with the text in front of it.  Where no
placeholder passes an ampersand, the template can be cut there into two that are filled in
on their own.
-/

namespace QueryBridge.Template

variable {parameters : Parameters}

/-- A placeholder of a template. -/
structure Occurrence where
  /-- The template up to the placeholder. -/
  before : List Char
  /-- The text of the placeholder. -/
  source : List Char
  name : String
deriving Repr, DecidableEq

/-- The placeholders of a text that follows `before`, in order. -/
def occurrencesFrom (before text : List Char) : List Occurrence :=
  match _h : placeholder? text with
  | some found =>
      let source := text.take (text.length - found.2.length)
      ⟨before, source, String.ofList found.1⟩ :: occurrencesFrom (before ++ source) found.2
  | none =>
      match text with
      | [] => []
      | c :: rest => occurrencesFrom (before ++ [c]) rest
termination_by text.length
decreasing_by
  · exact length_lt_of_placeholder? _h
  · simp

/-- The value that takes the place of the placeholder. -/
def Occurrence.value (occurrence : Occurrence) (parameters : Parameters) : List Char :=
  ((parameters.lookup occurrence.name).getD "").toList

/-- The names of the placeholders of a text. -/
def namesOf (text : List Char) : List String :=
  (pieces text).filterMap Piece.name?

def occurrences (template : String) : List Occurrence :=
  occurrencesFrom [] template.toList

/-! ## Equations -/

theorem pieces_of_placeholder? {text : List Char} {found : List Char × List Char}
    (h : placeholder? text = some found) :
    pieces text = .placeholder found.1 :: pieces found.2 := by
  rw [pieces]
  split
  · next other hother =>
      rw [h] at hother
      cases hother
      rfl
  · next hother =>
      rw [h] at hother
      cases hother

theorem pieces_nil : pieces [] = [] := by
  rw [pieces]
  rfl

theorem fill_nil : fill parameters [] = [] := by
  unfold fill
  rw [pieces_nil]
  rfl

theorem pieces_cons {c : Char} {text : List Char} (h : placeholder? (c :: text) = none) :
    pieces (c :: text) = .char c :: pieces text := by
  rw [pieces]
  split
  · next other hother =>
      rw [h] at hother
      cases hother
  · rfl

theorem occurrencesFrom_of_placeholder? {text : List Char} {found : List Char × List Char}
    (h : placeholder? text = some found) (before : List Char) :
    occurrencesFrom before text =
      ⟨before, text.take (text.length - found.2.length), String.ofList found.1⟩ ::
        occurrencesFrom (before ++ text.take (text.length - found.2.length)) found.2 := by
  rw [occurrencesFrom]
  split
  · next other hother =>
      rw [h] at hother
      cases hother
      rfl
  · next hother =>
      rw [h] at hother
      cases hother

theorem occurrencesFrom_nil (before : List Char) : occurrencesFrom before [] = [] := by
  rw [occurrencesFrom]
  rfl

theorem occurrencesFrom_cons {c : Char} {text : List Char} (h : placeholder? (c :: text) = none)
    (before : List Char) :
    occurrencesFrom before (c :: text) = occurrencesFrom (before ++ [c]) text := by
  rw [occurrencesFrom]
  split
  · next other hother =>
      rw [h] at hother
      cases hother
  · rfl

/-- The text of a placeholder, and what follows it. -/
theorem eq_append_of_placeholder? {text : List Char} {found : List Char × List Char}
    (h : placeholder? text = some found) :
    text = text.take (text.length - found.2.length) ++ found.2 := by
  obtain ⟨source, hsource⟩ := suffix_of_placeholder? h
  rw [← hsource]
  simp

/-! ## The texts around a placeholder -/

theorem eq_append_of_mem_occurrencesFrom {before text : List Char} {occurrence : Occurrence}
    (h : occurrence ∈ occurrencesFrom before text) :
    ∃ passed rest, occurrence.before = before ++ passed ∧
      text = passed ++ occurrence.source ++ rest := by
  induction before, text using occurrencesFrom.induct with
  | case1 before text found hfound source ih =>
      rw [occurrencesFrom_of_placeholder? hfound] at h
      have htext : text = source ++ found.2 := eq_append_of_placeholder? hfound
      rcases List.mem_cons.mp h with rfl | h
      · exact ⟨[], found.2, (List.append_nil before).symm, htext⟩
      · obtain ⟨passed, rest, hbefore, hrest⟩ := ih h
        refine ⟨source ++ passed, rest, by rw [hbefore, List.append_assoc], ?_⟩
        calc text = source ++ found.2 := htext
          _ = source ++ (passed ++ occurrence.source ++ rest) := by rw [hrest]
          _ = source ++ passed ++ occurrence.source ++ rest := by simp only [List.append_assoc]
  | case2 before hnone =>
      rw [occurrencesFrom_nil] at h
      exact absurd h List.not_mem_nil
  | case3 before c text hnone ih =>
      rw [occurrencesFrom_cons hnone] at h
      obtain ⟨passed, rest, hbefore, rfl⟩ := ih h
      exact ⟨c :: passed, rest, by rw [hbefore]; simp, by simp⟩

theorem before_isPrefix {text : List Char} {occurrence : Occurrence}
    (h : occurrence ∈ occurrencesFrom [] text) : occurrence.before <+: text := by
  obtain ⟨passed, rest, hbefore, htext⟩ := eq_append_of_mem_occurrencesFrom h
  rw [List.nil_append] at hbefore
  rw [hbefore, htext, List.append_assoc]
  exact List.prefix_append _ _

theorem map_name_occurrencesFrom (before text : List Char) :
    (occurrencesFrom before text).map Occurrence.name = namesOf text := by
  unfold namesOf
  induction before, text using occurrencesFrom.induct with
  | case1 before text found hfound source ih =>
      rw [occurrencesFrom_of_placeholder? hfound, pieces_of_placeholder? hfound, List.map_cons,
        List.filterMap_cons_some (rfl : Piece.name? (.placeholder found.1) = some _)]
      exact congrArg _ ih
  | case2 before hnone =>
      rw [occurrencesFrom_nil, pieces_nil]
      rfl
  | case3 before c text hnone ih =>
      rw [occurrencesFrom_cons hnone, pieces_cons hnone, ih,
        List.filterMap_cons_none (rfl : Piece.name? (.char c) = none)]

/-- The occurrences are all placeholders of a template, in order. -/
theorem map_name_occurrences (template : String) :
    (occurrences template).map Occurrence.name = placeholderNames template :=
  map_name_occurrencesFrom [] template.toList

/-- An occurrence is the same wherever its text stands. -/
theorem occurrencesFrom_append_before (front before text : List Char) :
    occurrencesFrom (front ++ before) text =
      (occurrencesFrom before text).map fun occurrence =>
        { occurrence with before := front ++ occurrence.before } := by
  induction before, text using occurrencesFrom.induct with
  | case1 before text found hfound source ih =>
      rw [occurrencesFrom_of_placeholder? hfound, occurrencesFrom_of_placeholder? hfound,
        List.append_assoc, ih]
      rfl
  | case2 before hnone => rw [occurrencesFrom_nil, occurrencesFrom_nil]; rfl
  | case3 before c text hnone ih =>
      rw [occurrencesFrom_cons hnone, occurrencesFrom_cons hnone, List.append_assoc, ih]

theorem mem_fill {before text : List Char} {c : Char} (h : c ∈ fill parameters text) :
    c ∈ text ∨ ∃ occurrence ∈ occurrencesFrom before text, c ∈ occurrence.value parameters := by
  unfold fill at h
  induction before, text using occurrencesFrom.induct with
  | case1 before text found hfound source ih =>
      rw [pieces_of_placeholder? hfound, List.flatMap_cons, List.mem_append] at h
      rw [occurrencesFrom_of_placeholder? hfound]
      rcases h with h | h
      · exact Or.inr ⟨_, List.mem_cons_self, h⟩
      · rcases ih h with htext | ⟨occurrence, hoccurrence, hc⟩
        · exact Or.inl ((suffix_of_placeholder? hfound).subset htext)
        · exact Or.inr ⟨occurrence, List.mem_cons_of_mem _ hoccurrence, hc⟩
  | case2 before hnone =>
      rw [pieces_nil] at h
      exact absurd h List.not_mem_nil
  | case3 before c' text hnone ih =>
      rw [pieces_cons hnone, List.flatMap_cons, List.mem_append] at h
      rw [occurrencesFrom_cons hnone]
      rcases h with h | h
      · rw [List.mem_singleton.mp h]
        exact Or.inl List.mem_cons_self
      · rcases ih h with htext | hvalue
        · exact Or.inl (List.mem_cons_of_mem _ htext)
        · exact Or.inr hvalue

/-! ## Cutting a template -/

/-- A beginning in which no placeholder begins is taken as it is. -/
theorem pieces_append_of_late {first rest : List Char} (before : List Char)
    (h : ∀ occurrence ∈ occurrencesFrom before (first ++ rest),
      before.length + first.length ≤ occurrence.before.length) :
    pieces (first ++ rest) = first.map .char ++ pieces rest := by
  induction first generalizing before with
  | nil => rfl
  | cons c first ih =>
      rw [List.cons_append] at h ⊢
      cases hplaceholder : placeholder? (c :: (first ++ rest)) with
      | some found =>
          -- a placeholder here would have only `before` in front
          rw [occurrencesFrom_of_placeholder? hplaceholder] at h
          have hbefore := h _ List.mem_cons_self
          simp only [List.length_cons] at hbefore
          omega
      | none =>
          rw [occurrencesFrom_cons hplaceholder] at h
          rw [pieces_cons hplaceholder, ih (before ++ [c]) (fun occurrence hoccurrence => ?_)]
          · rfl
          · have hbefore := h occurrence hoccurrence
            simp only [List.length_append, List.length_cons, List.length_nil] at hbefore ⊢
            omega

theorem fill_append_of_late (parameters : Parameters) {first rest : List Char}
    (h : ∀ occurrence ∈ occurrencesFrom [] (first ++ rest),
      first.length ≤ occurrence.before.length) :
    pieces (first ++ rest) = first.map .char ++ pieces rest ∧
      fill parameters (first ++ rest) = first ++ fill parameters rest := by
  have hpieces : pieces (first ++ rest) = first.map .char ++ pieces rest :=
    pieces_append_of_late [] (by simpa using h)
  refine ⟨hpieces, ?_⟩
  unfold fill
  rw [hpieces, List.flatMap_append, List.flatMap_map]
  simp [Piece.fill]

/-- What ends behind an ampersand contains it. -/
theorem mem_of_append_eq {source after first rest : List Char}
    (h : source ++ after = first ++ '&' :: rest) (hlength : after.length ≤ rest.length) :
    '&' ∈ source := by
  rcases List.append_eq_append_iff.mp h with ⟨middle, -, rfl⟩ | ⟨middle, rfl, hrest⟩
  · simp only [List.length_append, List.length_cons] at hlength
    omega
  · cases middle with
    | nil =>
        rw [List.nil_append] at hrest
        rw [← hrest, List.length_cons] at hlength
        omega
    | cons c middle =>
        rw [List.cons_append] at hrest
        cases hrest
        simp

/-- A template is cut at an ampersand that no earlier placeholder passes. -/
theorem pieces_append_ampersand (before first rest : List Char)
    (h : ∀ occurrence ∈ occurrencesFrom before (first ++ '&' :: rest),
      occurrence.before.length ≤ before.length + first.length → '&' ∉ occurrence.source) :
    pieces (first ++ '&' :: rest) = pieces first ++ .char '&' :: pieces rest ∧
      occurrencesFrom before (first ++ '&' :: rest) =
        occurrencesFrom before first ++ occurrencesFrom (before ++ first ++ ['&']) rest := by
  induction before, first using occurrencesFrom.induct with
  | case1 before first found hfound source ih =>
      have htext : first = source ++ found.2 := eq_append_of_placeholder? hfound
      have hplaceholder : placeholder? (first ++ '&' :: rest) =
          some (found.1, found.2 ++ '&' :: rest) := placeholder?_append_of_some hfound
      -- the placeholder has the same text in both
      have hsource : (first ++ '&' :: rest).take
          ((first ++ '&' :: rest).length - (found.2 ++ '&' :: rest).length) = source := by
        simp only [List.length_append]
        rw [Nat.add_sub_add_right, List.take_append_of_le_length (Nat.sub_le _ _)]
      rw [occurrencesFrom_of_placeholder? hplaceholder, hsource] at h ⊢
      have hlength : first.length = source.length + found.2.length := by
        rw [← List.length_append]
        exact congrArg List.length htext
      obtain ⟨hpieces, hoccurrences⟩ := ih fun occurrence hoccurrence hbefore =>
        h occurrence (List.mem_cons_of_mem _ hoccurrence) (by
          rw [List.length_append] at hbefore
          omega)
      rw [pieces_of_placeholder? hplaceholder, pieces_of_placeholder? hfound, hpieces,
        occurrencesFrom_of_placeholder? hfound, hoccurrences]
      refine ⟨rfl, ?_⟩
      rw [List.append_assoc before source, ← htext]
      rfl
  | case2 before hnone =>
      have hampersand := placeholder?_ampersand rest
      rw [List.nil_append, pieces_cons hampersand, occurrencesFrom_cons hampersand, pieces_nil,
        occurrencesFrom_nil, List.append_nil]
      exact ⟨rfl, rfl⟩
  | case3 before c first hnone ih =>
      rw [List.cons_append] at h ⊢
      cases hplaceholder : placeholder? (c :: (first ++ '&' :: rest)) with
      | some found =>
          -- it would pass the ampersand, which the placeholders up to the cut do not
          have hlength : found.2.length ≤ rest.length :=
            length_le_of_placeholder?_append hnone hplaceholder
          rw [occurrencesFrom_of_placeholder? hplaceholder] at h
          refine absurd ?_ (h _ List.mem_cons_self (Nat.le_add_right _ _))
          have htext := (eq_append_of_placeholder? hplaceholder).symm
          rw [← List.cons_append] at htext
          exact mem_of_append_eq htext hlength
      | none =>
          rw [occurrencesFrom_cons hplaceholder] at h
          obtain ⟨hpieces, hoccurrences⟩ := ih fun occurrence hoccurrence hbefore =>
            h occurrence hoccurrence (by
              simp only [List.length_append, List.length_cons, List.length_nil] at hbefore ⊢
              omega)
          rw [pieces_cons hplaceholder, pieces_cons hnone, hpieces,
            occurrencesFrom_cons hplaceholder, occurrencesFrom_cons hnone, hoccurrences]
          refine ⟨rfl, ?_⟩
          simp

theorem fill_append_ampersand (first rest : List Char)
    (h : ∀ occurrence ∈ occurrencesFrom [] (first ++ '&' :: rest),
      occurrence.before.length ≤ first.length → '&' ∉ occurrence.source) :
    fill parameters (first ++ '&' :: rest) =
      fill parameters first ++ '&' :: fill parameters rest := by
  unfold fill
  rw [(pieces_append_ampersand [] first rest (by simpa using h)).1]
  simp [Piece.fill]

end QueryBridge.Template
