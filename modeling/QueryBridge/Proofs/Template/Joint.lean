import QueryBridge.Proofs.Template.Layout

/-!
# Placeholders in resolved queries

Inserted values are not scanned again, so a resolved query can hold a placeholder although
none of the values does.  It is made across a joint: it begins in one part of the query, which
is a literal part of the template or an inserted value, and ends in a later one.  There is no
other way, since no placeholder is left inside a literal part.
-/

namespace QueryBridge.Template

variable {text : List Char} {parameters : Parameters}

/-! ## Texts without placeholders -/

/-- A text of the placeholder form occurs in the text. -/
def HoldsForm (text : List Char) : Prop :=
  ∃ source name, IsForm source name ∧ source <:+: text

/-- A placeholder that lies in a literal part would begin there. -/
theorem IsLiteral.not_holdsForm {literal rest : List Char} (h : IsLiteral literal rest) :
    ¬ HoldsForm literal := by
  rintro ⟨source, name, hform, before, after, rfl⟩
  refine h before (source ++ after) (List.append_assoc _ _ _) ?_ ?_
  · exact List.append_ne_nil_of_left_ne_nil (source_ne_nil hform) after
  · exact ⟨source, name, after ++ rest, hform, List.append_assoc _ _ _⟩

theorem namesOf_eq_nil_iff : namesOf text = [] ↔ ¬ HoldsForm text := by
  obtain ⟨layout, hlayout, rfl⟩ := Layout.exists_isProper text
  rw [Layout.namesOf_text hlayout]
  cases layout with
  | last literal => exact ⟨fun _ => hlayout.not_holdsForm, fun _ => rfl⟩
  | part literal source name rest =>
      refine ⟨fun hnames => absurd hnames (List.cons_ne_nil _ _), fun hnone => ?_⟩
      exact absurd ⟨source, name, hlayout.2.1.form, literal, rest.text, rfl⟩ hnone

theorem placeholderNames_eq_nil_iff {template : String} :
    placeholderNames template = [] ↔ ¬ HoldsForm template.toList :=
  namesOf_eq_nil_iff

/-- A text without placeholders resolves to itself. -/
theorem resolve_of_no_names {template : String} (h : placeholderNames template = [])
    (parameters : Parameters) : resolve template parameters = .ok template := by
  obtain ⟨layout, hlayout, htext⟩ := Layout.exists_isProper template.toList
  have hnames := Layout.placeholderNames_eq_names hlayout htext
  rw [Layout.resolve_eq_ok_iff_fill? hlayout htext, ← htext]
  cases layout with
  | last literal => rfl
  | part literal source name rest => exact absurd (hnames.symm.trans h) (List.cons_ne_nil _ _)

/-- Only a text without placeholders is resolved to itself by all parameters. -/
theorem placeholderNames_eq_nil_iff_resolve {query : String} :
    placeholderNames query = [] ↔ ∀ others, resolve query others = .ok query := by
  constructor
  · exact resolve_of_no_names
  · intro h
    cases hnames : placeholderNames query with
    | nil => rfl
    | cons name names =>
        -- without any value for it the first name is reported
        have hunbound : resolve query [] = .error ⟨name⟩ :=
          resolve_of_unbound hnames (fun _ hmem => absurd hmem List.not_mem_nil) nofun
        rw [h []] at hunbound
        cases hunbound

/-! ## Joints -/

/-- A text of the placeholder form begins in `part` and ends in what follows it. -/
def Straddles (part after : List Char) : Prop :=
  ∃ head tail name, head ≠ [] ∧ tail ≠ [] ∧ head <:+ part ∧ tail <+: after ∧
    IsForm (head ++ tail) name

/-- A text of the placeholder form begins in one of the parts and ends in a later one. -/
def CrossesJoint (parts : List (List Char)) : Prop :=
  ∃ before part after, parts = before ++ part :: after ∧ Straddles part after.flatten

theorem not_crossesJoint_nil : ¬ CrossesJoint [] := by
  rintro ⟨before, part, after, heq, -⟩
  simp at heq

theorem crossesJoint_cons_iff {part : List Char} {parts : List (List Char)} :
    CrossesJoint (part :: parts) ↔ Straddles part parts.flatten ∨ CrossesJoint parts := by
  constructor
  · rintro ⟨before, first, after, heq, h⟩
    cases before with
    | nil =>
        cases heq
        exact Or.inl h
    | cons other before =>
        cases heq
        exact Or.inr ⟨before, first, after, rfl, h⟩
  · rintro (h | ⟨before, first, after, rfl, h⟩)
    · exact ⟨[], part, parts, rfl, h⟩
    · exact ⟨part :: before, first, after, rfl, h⟩

theorem holdsForm_append_iff {part after : List Char} :
    HoldsForm (part ++ after) ↔ HoldsForm part ∨ Straddles part after ∨ HoldsForm after := by
  constructor
  · rintro ⟨source, name, hform, hinfix⟩
    rcases List.infix_append_iff_ne_nil.mp hinfix with
      hinside | hinside | ⟨head, tail, hhead, htail, rfl, hends, hbegins⟩
    · exact Or.inl ⟨source, name, hform, hinside⟩
    · exact Or.inr (Or.inr ⟨source, name, hform, hinside⟩)
    · exact Or.inr (Or.inl ⟨head, tail, name, hhead, htail, hends, hbegins, hform⟩)
  · rintro (⟨source, name, hform, hinside⟩ | ⟨head, tail, name, -, -, hends, hbegins, hform⟩ |
      ⟨source, name, hform, hinside⟩)
    · exact ⟨source, name, hform, hinside.trans (List.prefix_append part after).isInfix⟩
    · exact ⟨head ++ tail, name, hform,
        List.infix_append_iff.mpr (Or.inr (Or.inr ⟨head, tail, rfl, hends, hbegins⟩))⟩
    · exact ⟨source, name, hform, hinside.trans (List.suffix_append part after).isInfix⟩

/-- A placeholder in joined parts lies in one of them or crosses a joint. -/
theorem holdsForm_flatten_iff {parts : List (List Char)} :
    HoldsForm parts.flatten ↔ (∃ part ∈ parts, HoldsForm part) ∨ CrossesJoint parts := by
  induction parts with
  | nil =>
      have hnil : ¬ HoldsForm [] := by
        rintro ⟨source, name, hform, hinfix⟩
        exact source_ne_nil hform (List.infix_nil.mp hinfix)
      simp [hnil, not_crossesJoint_nil]
  | cons part parts ih =>
      rw [List.flatten_cons, holdsForm_append_iff, ih, crossesJoint_cons_iff,
        List.exists_mem_cons_iff, or_assoc, or_left_comm (a := Straddles _ _)]

/-! ## Parts that could be completed -/

/-- The part ends with the beginning of a placeholder. -/
def EndsOpen (part : List Char) : Prop :=
  ∃ head tail name, head ≠ [] ∧ tail ≠ [] ∧ head <:+ part ∧ IsForm (head ++ tail) name

theorem not_endsOpen_of_not_mem {part : List Char} (h : '<' ∉ part) : ¬ EndsOpen part := by
  rintro ⟨head, tail, name, hhead, -, hends, quote, opening, closing, hopening, -, -, heq⟩
  obtain ⟨-, first, second, -, -, rfl⟩ := hopening
  cases head with
  | nil => exact hhead rfl
  | cons c head =>
      have hfirst : c = '<' := by simpa using congrArg List.head? heq
      exact h (hends.subset (hfirst ▸ List.mem_cons_self))

/-- Nothing crosses a joint if every part but the last ends outside a placeholder. -/
theorem not_crossesJoint_of_dropLast {parts : List (List Char)}
    (h : ∀ part ∈ parts.dropLast, ¬ EndsOpen part) : ¬ CrossesJoint parts := by
  rintro ⟨before, part, after, rfl, head, tail, name, hhead, htail, hends, hbegins, hform⟩
  have hafter : after ≠ [] := by
    rintro rfl
    exact htail (List.prefix_nil.mp hbegins)
  refine h part ?_ ⟨head, tail, name, hhead, htail, hends, hform⟩
  rw [List.dropLast_append_of_ne_nil (List.cons_ne_nil part after),
    List.dropLast_cons_of_ne_nil hafter]
  exact List.mem_append_right before List.mem_cons_self

/-! ## The parts of a resolved query -/

/-- A piece in front of parts: a character goes to the first of them, and a value is a part of
its own, with an empty literal part in front. -/
def addPiece (parameters : Parameters) (piece : Piece) (parts : List (List Char)) :
    List (List Char) :=
  match piece with
  | .char c => parts.modifyHead (c :: ·)
  | .placeholder name => [] :: Piece.fill parameters (.placeholder name) :: parts

/-- The literal parts of a text and the values between them, in order. -/
def partsOf (parameters : Parameters) (text : List Char) : List (List Char) :=
  (pieces text).foldr (addPiece parameters) [[]]

theorem partsOf_of_placeholder? {found : List Char × List Char}
    (h : placeholder? text = some found) :
    partsOf parameters text =
      [] :: Piece.fill parameters (.placeholder found.1) :: partsOf parameters found.2 := by
  rw [partsOf, pieces_of_placeholder? h]
  rfl

theorem foldr_addPiece_literal (literal : List Char) (first : List Char)
    (others : List (List Char)) :
    (literal.map Piece.char).foldr (addPiece parameters) (first :: others) =
      (literal ++ first) :: others := by
  induction literal with
  | nil => rfl
  | cons c literal ih =>
      rw [List.map_cons, List.foldr_cons, ih]
      rfl

theorem partsOf_literal {literal : List Char} (h : IsLiteral literal []) :
    partsOf parameters literal = [literal] := by
  have hpieces := pieces_literal_append h
  rw [List.append_nil, pieces_nil, List.append_nil] at hpieces
  rw [partsOf, hpieces, foldr_addPiece_literal, List.append_nil]

theorem partsOf_literal_append {literal rest : List Char} (h : IsLiteral literal rest)
    {first : List Char} {others : List (List Char)}
    (hrest : partsOf parameters rest = first :: others) :
    partsOf parameters (literal ++ rest) = (literal ++ first) :: others := by
  rw [partsOf] at hrest ⊢
  rw [pieces_literal_append h, List.foldr_append, hrest, foldr_addPiece_literal]

/-- The parts of a layout are its literal parts with the values between them. -/
theorem partsOf_part {literal source name : List Char} {rest : Layout}
    (h : (Layout.part literal source name rest).IsProper) :
    partsOf parameters (Layout.part literal source name rest).text =
      literal :: Piece.fill parameters (.placeholder name) :: partsOf parameters rest.text := by
  obtain ⟨hliteral, hplaceholder, -⟩ := h
  have hparts : partsOf parameters (source ++ rest.text) =
      [] :: Piece.fill parameters (.placeholder name) :: partsOf parameters rest.text :=
    partsOf_of_placeholder? (placeholder?_of_isPlaceholder hplaceholder)
  rw [Layout.text, List.append_assoc, partsOf_literal_append hliteral hparts, List.append_nil]

theorem flatten_partsOf {layout : Layout} (h : layout.IsProper) :
    (partsOf parameters layout.text).flatten = fill parameters layout.text := by
  induction layout with
  | last literal =>
      have hfill : fill parameters (literal ++ []) = literal ++ fill parameters [] :=
        Layout.fill_literal_append h
      rw [List.append_nil, fill_nil, List.append_nil] at hfill
      rw [Layout.text, partsOf_literal h, hfill, List.flatten_singleton]
  | part literal source name rest ih =>
      rw [partsOf_part h, List.flatten_cons, List.flatten_cons, ih h.2.2, Layout.text,
        List.append_assoc, Layout.fill_literal_append h.1]
      unfold fill
      rw [pieces_of_placeholder? (placeholder?_of_isPlaceholder h.2.1), List.flatMap_cons]

/-- No part holds a placeholder if no value does. -/
theorem not_holdsForm_of_mem_partsOf {layout : Layout} (hlayout : layout.IsProper)
    (h : ∀ name ∈ layout.names, ∃ value, parameters.lookup name = some value ∧
      placeholderNames value = []) :
    ∀ part ∈ partsOf parameters layout.text, ¬ HoldsForm part := by
  induction layout with
  | last literal =>
      intro part hpart
      rw [Layout.text, partsOf_literal hlayout] at hpart
      rw [List.mem_singleton.mp hpart]
      exact hlayout.not_holdsForm
  | part literal source name rest ih =>
      obtain ⟨⟨value, hvalue, hnone⟩, hothers⟩ := List.forall_mem_cons.mp h
      intro part hpart
      rw [partsOf_part hlayout, Piece.fill, hvalue, Option.getD_some] at hpart
      rcases List.mem_cons.mp hpart with rfl | hpart
      · exact hlayout.1.not_holdsForm
      rcases List.mem_cons.mp hpart with rfl | hpart
      · exact placeholderNames_eq_nil_iff.mp hnone
      · exact ih hlayout.2.2 hothers part hpart

/-- If no bound value holds a placeholder, the resolved query holds one exactly if one is made
across a joint of the literal parts and the values.  It holds none exactly if resolving it again
never changes it; and so it is if no part in front of another ends with the beginning of a
placeholder. -/
theorem resolved_placeholders_cross_joints (template : String) (parameters : Parameters)
    (h : ∀ name ∈ placeholderNames template, ∃ value, parameters.lookup name = some value ∧
      placeholderNames value = []) :
    ∃ resolved, resolve template parameters = .ok resolved ∧
      resolved.toList = (partsOf parameters template.toList).flatten ∧
      (placeholderNames resolved = [] ↔ ¬ CrossesJoint (partsOf parameters template.toList)) ∧
      (placeholderNames resolved = [] ↔ ∀ others, resolve resolved others = .ok resolved) ∧
      ((∀ part ∈ (partsOf parameters template.toList).dropLast, ¬ EndsOpen part) →
        placeholderNames resolved = []) := by
  obtain ⟨layout, hlayout, htext⟩ := Layout.exists_isProper template.toList
  have hnames := Layout.placeholderNames_eq_names hlayout htext
  have hbound : ∀ name ∈ placeholderNames template, IsBound parameters name := by
    intro name hname
    obtain ⟨value, hvalue, -⟩ := h name hname
    rw [IsBound, hvalue]
    rfl
  have hparts : (filled template parameters).toList =
      (partsOf parameters template.toList).flatten := by
    rw [filled, String.toList_ofList, ← htext, flatten_partsOf hlayout]
  have hcrosses : placeholderNames (filled template parameters) = [] ↔
      ¬ CrossesJoint (partsOf parameters template.toList) := by
    rw [placeholderNames_eq_nil_iff, hparts, holdsForm_flatten_iff, not_or]
    refine ⟨fun hnone => hnone.2, fun hnone => ⟨?_, hnone⟩⟩
    rintro ⟨part, hpart, hform⟩
    rw [← htext] at hpart
    exact not_holdsForm_of_mem_partsOf hlayout (hnames ▸ h) part hpart hform
  exact ⟨filled template parameters, resolve_of_bound hbound, hparts, hcrosses,
    placeholderNames_eq_nil_iff_resolve,
    fun hclosed => hcrosses.mpr (not_crossesJoint_of_dropLast hclosed)⟩

/-- Values without a placeholder can make one: a value that completes a literal part, and one
that is put in place of a line feed at which the name in front could not go on. -/
theorem harmless_values_make_placeholders :
    let made := fun template value resolved =>
      placeholderNames template = ["A"] ∧ placeholderNames value = [] ∧
        resolve template [("A", value)] = .ok resolved ∧ placeholderNames resolved = ["B"] ∧
        resolve resolved [] = .error ⟨"B"⟩
    made "<%=<%=parameter[\"A\"]%>" "parameter[\"B\"]%>" "<%=parameter[\"B\"]%>" ∧
      made "<%=parameter[\"<%=\nparameter['A']%>\"]%>" "B" "<%=parameter[\"B\"]%>" := by
  decide +kernel

/-- Behind literal parts without `<` even values with delimiters make no placeholder. -/
theorem delimiters_in_values_make_no_placeholder :
    ∃ resolved, resolve "name=<%=parameter[\"Name\"]%>&id=<%= parameter['Id'] %>"
        [("Name", "parameter[\"B\"]%>"), ("Id", "%>")] = .ok resolved ∧
      placeholderNames resolved = [] := by
  have hnames : placeholderNames "name=<%=parameter[\"Name\"]%>&id=<%= parameter['Id'] %>" =
      ["Name", "Id"] := by decide +kernel
  obtain ⟨resolved, hresolved, -, -, -, hclosed⟩ :=
    resolved_placeholders_cross_joints "name=<%=parameter[\"Name\"]%>&id=<%= parameter['Id'] %>"
      [("Name", "parameter[\"B\"]%>"), ("Id", "%>")] (by
        rw [hnames]
        intro name hname
        rcases List.mem_pair.mp hname with rfl | rfl
        · exact ⟨"parameter[\"B\"]%>", rfl, by decide +kernel⟩
        · exact ⟨"%>", rfl, by decide +kernel⟩)
  refine ⟨resolved, hresolved, hclosed fun part hpart => not_endsOpen_of_not_mem ?_⟩
  revert part
  decide +kernel

end QueryBridge.Template
