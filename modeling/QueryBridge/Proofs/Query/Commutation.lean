import Mathlib.Data.List.Forall2
import QueryBridge.Proofs.Query.Substitution

/-!
# Resolving a query term by term

Where the placeholders of a template stand in the values of single terms, and the values bound
to them hold no ampersand, it makes no difference whether the template is resolved first and
then cut into terms, or cut first and then resolved value by value.
-/

namespace QueryBridge.Query

open Template (IsBound occurrencesFrom placeholderNames)

/-- A term with the same key whose value is the resolved one. -/
def Term.ResolvesTo (parameters : Template.Parameters) (term resolved : Term) : Prop :=
  resolved.key = term.key ∧ Template.resolve term.value parameters = .ok resolved.value

theorem Term.resolvesTo_fill {parameters : Template.Parameters} {term : Term}
    (h : ∀ name ∈ placeholderNames term.value, IsBound parameters name) :
    term.ResolvesTo parameters (term.fill parameters) :=
  ⟨rfl, Template.resolve_of_bound h⟩

/-- The terms of the resolved template are those of the template, each with its value resolved
on its own. -/
theorem forall₂_resolvesTo_terms (template : String) (parameters : Template.Parameters)
    (hinside : ∀ occurrence ∈ Template.occurrences template, occurrence.IsInValue)
    (hbound : ∀ name ∈ placeholderNames template,
      ∃ value, parameters.lookup name = some value ∧ '&' ∉ value.toList) :
    ∃ resolved, Template.resolve template parameters = .ok resolved ∧
      List.Forall₂ (Term.ResolvesTo parameters) (terms template) (terms resolved) := by
  have hnames : ∀ name ∈ placeholderNames template, IsBound parameters name := by
    intro name hname
    obtain ⟨value, hvalue, -⟩ := hbound name hname
    rw [IsBound, hvalue]
    rfl
  have hvalues : ∀ occurrence ∈ Template.occurrences template,
      '&' ∉ occurrence.value parameters := by
    intro occurrence hoccurrence
    have hname : occurrence.name ∈ placeholderNames template := by
      rw [← Template.map_name_occurrences]
      exact List.mem_map_of_mem hoccurrence
    obtain ⟨value, hvalue, hampersand⟩ := hbound occurrence.name hname
    rw [Template.Occurrence.value, hvalue]
    exact hampersand
  obtain ⟨hterms, hsubset⟩ := termsOf_fill template.toList fun occurrence hoccurrence =>
    ⟨hinside occurrence hoccurrence, hvalues occurrence hoccurrence⟩
  have hresolved : terms (Template.filled template parameters) =
      (terms template).map (Term.fill parameters) := by
    rw [terms_eq_termsOf, Template.filled, String.toList_ofList, hterms, terms_eq_termsOf]
  refine ⟨Template.filled template parameters, Template.resolve_of_bound hnames, ?_⟩
  rw [hresolved, List.forall₂_map_right_iff, List.forall₂_same]
  intro term hterm
  exact Term.resolvesTo_fill fun name hname => hnames name (hsubset term hterm hname)

/-- Values with `=`, blanks and the text of a placeholder keep the terms apart. -/
theorem resolvesTo_terms_of_odd_values :
    ∃ resolved,
      Template.resolve "name=<%=parameter[\"Name\"]%>&note=(<%= parameter['Note'] %>)&id=7"
        [("Name", "a = 'b'"), ("Note", "<%=parameter[\"Name\"]%>")] = .ok resolved ∧
      List.Forall₂
        (Term.ResolvesTo [("Name", "a = 'b'"), ("Note", "<%=parameter[\"Name\"]%>")])
        (terms "name=<%=parameter[\"Name\"]%>&note=(<%= parameter['Note'] %>)&id=7")
        (terms resolved) := by
  refine forall₂_resolvesTo_terms _ _ (by decide +kernel) ?_
  intro name hname
  have hnames : placeholderNames
      "name=<%=parameter[\"Name\"]%>&note=(<%= parameter['Note'] %>)&id=7" = ["Name", "Note"] := by
    decide +kernel
  rw [hnames, List.mem_cons, List.mem_singleton] at hname
  rcases hname with rfl | rfl
  · exact ⟨"a = 'b'", rfl, by decide⟩
  · exact ⟨"<%=parameter[\"Name\"]%>", rfl, by decide⟩

end QueryBridge.Query
