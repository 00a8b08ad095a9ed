import Mathlib.Data.List.Basic
import QueryBridge.Proofs.Bridge.Operation
import QueryBridge.Proofs.Query.Substitution
import QueryBridge.Runtime.Standard

/-!
# The record of a retrieval

The id is read from the resolved query, so a bound value with an ampersand can put another
id in front of the template's.  Where the placeholders up to the id term keep the terms of
the template, the record is the one that this term names: its value, resolved on its own.
-/

namespace QueryBridge.Bridge.Adapter

open QueryBridge.Service (Call Client)
open QueryBridge.Template (IsBound placeholderNames)

/-- The placeholders up to the first id term stand in values of single terms, and the values
bound to them hold no ampersand. -/
def KeepsTerms (template : String) (parameters : Template.Parameters) : Prop :=
  ∀ occurrence ∈ Template.occurrences template, ¬ occurrence.IsBehind recordIdKey →
    occurrence.IsInValue ∧ '&' ∉ occurrence.value parameters

instance (template : String) (parameters : Template.Parameters) :
    Decidable (KeepsTerms template parameters) :=
  inferInstanceAs (Decidable (∀ occurrence ∈ Template.occurrences template, _))

variable {adapter : Adapter} {request : Request}

/-! ## The id -/

theorem isFirst_filled {template : String} {parameters : Template.Parameters} {term : Query.Term}
    (hfirst : Query.IsFirst template recordIdKey term) (hkeeps : KeepsTerms template parameters) :
    Query.IsFirst (Template.filled template parameters) recordIdKey (term.fill parameters) ∧
      placeholderNames term.value ⊆ placeholderNames template := by
  rw [Query.isFirst_iff] at hfirst ⊢
  obtain ⟨hfind, hnames⟩ := Query.findTerm_fill template.toList hkeeps
  refine ⟨?_, hnames term hfirst⟩
  rw [Template.filled, String.toList_ofList, hfind, hfirst]
  rfl

/-- The id in the resolved query is the value of the template's id term, filled in. -/
theorem recordId_filled {template : String} {parameters : Template.Parameters}
    {term : Query.Term} (hfirst : Query.IsFirst template recordIdKey term)
    (hkeeps : KeepsTerms template parameters) :
    recordId template (Template.filled template parameters) =
      if Template.filled term.value parameters = "" then .error .emptyId
      else .ok (Template.filled term.value parameters) := by
  unfold recordId
  rw [Query.find?_of_isFirst hfirst, Query.find?_of_isFirst (isFirst_filled hfirst hkeeps).1]
  rfl

theorem filled_congr {template : String} {first second : Template.Parameters}
    (h : ∀ name ∈ placeholderNames template, first.lookup name = second.lookup name) :
    Template.filled template first = Template.filled template second := by
  unfold Template.filled Template.fill
  refine congrArg String.ofList (List.flatMap_congr fun piece hpiece => ?_)
  cases piece with
  | char c => rfl
  | placeholder name =>
      have hname : String.ofList name ∈ placeholderNames template :=
        List.mem_filterMap.mpr ⟨_, hpiece, rfl⟩
      dsimp only [Template.Piece.fill]
      rw [h _ hname]

/-! ## The request -/

/-- A retrieval asks for the value of the template's id term, filled in. -/
theorem target_retrieve {client : Client} {resource : String} {term : Query.Term}
    (hfirst : Query.IsFirst request.query recordIdKey term)
    (hkeeps : KeepsTerms request.query request.parameters)
    (h : adapter.target .retrieve request = .ok (client, resource)) :
    resource = Service.recordResource (Template.filled term.value request.parameters) := by
  obtain ⟨-, query, hresolve, hresource⟩ := target_eq_ok h
  rw [(Template.resolve_eq_ok_iff.mp hresolve).2, Operation.resource_retrieve,
    recordId_filled hfirst hkeeps] at hresource
  by_cases hempty : Template.filled term.value request.parameters = ""
  · rw [if_pos hempty] at hresource
    cases hresource
  · rw [if_neg hempty] at hresource
    cases hresource
    rfl

theorem requests_retrieve [Runtime] {replies : List Http.Reply} {term : Query.Term}
    (hfirst : Query.IsFirst request.query recordIdKey term)
    (hkeeps : KeepsTerms request.query request.parameters)
    (hsent : (adapter.run .retrieve request replies).requests ≠ []) :
    ∃ client, adapter.client = some client ∧
      (adapter.run .retrieve request replies).requests =
        (client.fetchRecord adapter.journal
          (Template.filled term.value request.parameters) replies).requests := by
  unfold Call.requests at hsent ⊢
  cases htarget : adapter.target .retrieve request with
  | error error =>
      rw [(run_of_target_error htarget replies).2] at hsent
      exact absurd rfl hsent
  | ok found =>
      obtain ⟨client, resource⟩ := found
      refine ⟨client, (target_eq_ok htarget).1, ?_⟩
      rw [(run_of_target_ok htarget replies).2, target_retrieve hfirst hkeeps htarget]
      rfl

/-- Parameters with the same value of the id term lead to the same target. -/
theorem target_retrieve_congr (adapter : Adapter) {others : Template.Parameters} {term : Query.Term}
    (hfirst : Query.IsFirst request.query recordIdKey term)
    (hbound : ∀ name ∈ placeholderNames request.query, IsBound request.parameters name)
    (hbound' : ∀ name ∈ placeholderNames request.query, IsBound others name)
    (hkeeps : KeepsTerms request.query request.parameters)
    (hkeeps' : KeepsTerms request.query others)
    (hvalue : Template.filled term.value others = Template.filled term.value request.parameters) :
    adapter.target .retrieve { request with parameters := others } =
      adapter.target .retrieve request := by
  -- the resolved queries may differ, but not in the id that is read from them
  have hresource :
      Operation.resource .retrieve request.query (Template.filled request.query others) =
        Operation.resource .retrieve request.query
          (Template.filled request.query request.parameters) := by
    rw [Operation.resource_retrieve, Operation.resource_retrieve, recordId_filled hfirst hkeeps,
      recordId_filled hfirst hkeeps', hvalue]
  unfold target prepare
  dsimp only
  rw [Template.resolve_of_bound hbound, Template.resolve_of_bound hbound']
  cases adapter.registry.contains request.structureName with
  | false => rfl
  | true =>
      cases adapter.client with
      | none => rfl
      | some client =>
          rw [if_neg (by decide), if_neg (by decide)]
          dsimp only
          rw [hresource]

/-- If the placeholders up to the id term keep the terms of the template, a retrieval asks for
the value of that term, resolved on its own; so what is bound elsewhere does not matter. -/
theorem retrieve_asks_for_resolved_id [Runtime] (adapter : Adapter) (request : Request)
    (replies : List Http.Reply) (term : Query.Term)
    (hfirst : Query.IsFirst request.query recordIdKey term)
    (hbound : ∀ name ∈ placeholderNames request.query, IsBound request.parameters name)
    (hkeeps : KeepsTerms request.query request.parameters) :
    let call := adapter.run .retrieve request replies
    (∃ id, Template.resolve term.value request.parameters = .ok id ∧
      (call.requests ≠ [] → ∃ client, adapter.client = some client ∧
        call.requests = (client.fetchRecord adapter.journal id replies).requests)) ∧
    ∀ others, (∀ name ∈ placeholderNames request.query, IsBound others name) →
      KeepsTerms request.query others →
      (∀ name ∈ placeholderNames term.value, others.lookup name = request.parameters.lookup name) →
      let other := adapter.run .retrieve { request with parameters := others } replies
      other.requests = call.requests ∧ other.outcome = call.outcome := by
  intro call
  refine ⟨⟨Template.filled term.value request.parameters, ?_, requests_retrieve hfirst hkeeps⟩, ?_⟩
  · refine Template.resolve_of_bound fun name hname => hbound name ?_
    exact (isFirst_filled hfirst hkeeps).2 hname
  · intro others hbound' hkeeps' hagree other
    have htarget := target_retrieve_congr adapter hfirst hbound hbound' hkeeps hkeeps'
      (filled_congr hagree)
    obtain ⟨hattempts, houtcome⟩ := run_congr htarget rfl replies
    exact ⟨Call.requests_congr hattempts, houtcome⟩

/-- Without the condition other values decide: one with an ampersand in an earlier term, one
in the key of an earlier term, and one whose placeholder is cut by an ampersand. -/
theorem bound_value_can_name_another_record :
    let adapter := (make "http://h" .default 1 none).after
      [.setProperties [(PropertyMap.usernameKey, some "user"),
        (PropertyMap.passwordKey, some "pass")], .connect [.answer ⟨200, [], []⟩]]
    let paths := fun requests : List Http.Request =>
      requests.map fun sent => String.ofList sent.url.path
    let fetches := fun value query parameters path =>
      Query.IsFirst query recordIdKey ⟨"id", value⟩ ∧
        (∀ name ∈ placeholderNames query, IsBound parameters name) ∧
        Template.resolve value parameters = .ok value ∧
        paths (adapter.run .retrieve ⟨"FirstStructure", query, parameters, []⟩ []).requests =
          [path]
    fetches "7" "name=<%=parameter[\"Name\"]%>&id=7" [("Name", "x&id=9")]
        "/path/to/retrieve/record/9" ∧
      fetches "7" "<%=parameter[\"Key\"]%>=5&id=7" [("Key", "id")]
        "/path/to/retrieve/record/5" ∧
      fetches "<%=parameter[\"a" "id=<%=parameter[\"a&b\"]%>" [("a&b", "9")]
        "/path/to/retrieve/record/9" ∧
      ∀ client, adapter.client = some client →
        paths (client.fetchRecord adapter.journal "7" []).requests =
            ["/path/to/retrieve/record/7"] ∧
          paths (client.fetchRecord adapter.journal "<%=parameter[\"a" []).requests =
            ["/path/to/retrieve/record/%3C%25%3Dparameter%5B%22a"] := by
  intro adapter paths fetches
  refine ⟨⟨Query.isFirst_iff.mpr (by decide +kernel), by decide +kernel, by decide +kernel,
      by decide +kernel⟩,
    ⟨Query.isFirst_iff.mpr (by decide +kernel), by decide +kernel, by decide +kernel,
      by decide +kernel⟩,
    ⟨Query.isFirst_iff.mpr (by decide +kernel), by decide +kernel, by decide +kernel,
      by decide +kernel⟩, ?_⟩
  intro client hclient
  have hused : adapter.client = some ⟨"http://h", some (.basic "user" "pass"), [], 1⟩ := by
    decide +kernel
  cases hused.symm.trans hclient
  exact ⟨by decide +kernel, by decide +kernel⟩

/-- A harmless value leaves the record of the template. -/
theorem harmless_value_keeps_record :
    let adapter := (make "http://h" .default 1 none).after
      [.setProperties [(PropertyMap.usernameKey, some "user"),
        (PropertyMap.passwordKey, some "pass")], .connect [.answer ⟨200, [], []⟩]]
    let call := fun name => adapter.run .retrieve
      ⟨"FirstStructure", "name=<%=parameter[\"Name\"]%>&id=7", [("Name", name)], []⟩ []
    (call "a=b").requests ≠ [] ∧ (call "c d").requests = (call "a=b").requests := by
  intro adapter call
  have hfirst : Query.IsFirst "name=<%=parameter[\"Name\"]%>&id=7" recordIdKey ⟨"id", "7"⟩ :=
    Query.isFirst_iff.mpr (by decide +kernel)
  obtain ⟨-, hothers⟩ := retrieve_asks_for_resolved_id adapter
    ⟨"FirstStructure", "name=<%=parameter[\"Name\"]%>&id=7", [("Name", "a=b")], []⟩ []
    ⟨"id", "7"⟩ hfirst (by decide +kernel) (by decide +kernel)
  refine ⟨by decide +kernel, ?_⟩
  exact (hothers [("Name", "c d")] (by decide +kernel) (by decide +kernel) (by decide +kernel)).1

end QueryBridge.Bridge.Adapter
