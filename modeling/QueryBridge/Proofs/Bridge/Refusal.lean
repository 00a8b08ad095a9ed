import QueryBridge.Proofs.Bridge.Acceptance
import QueryBridge.Proofs.Query.Lookup
import QueryBridge.Proofs.Registry
import QueryBridge.Proofs.Template.Resolution

/-!
# Requests that are refused

The checks of an operation come in a fixed order: the structure, a connection, the names of
the template, and for a retrieval the id.  A request that fails one of them is refused with
its error, and nothing is sent.
-/

namespace QueryBridge.Bridge.Adapter

open QueryBridge.Service (Call Client)
open QueryBridge.Query (Term terms)
open QueryBridge.Template (IsBound placeholderNames)

/-- A call ends with an error before anything is sent. -/
def Refuses {α : Type} (call : Call α) (error : Error) : Prop :=
  call.outcome = .error (.reported error) ∧ call.requests = []

variable {adapter : Adapter} {request : Request}

theorem refuses_of_target {operation : Operation} {error : Error}
    (h : adapter.target operation request = .error error) (replies : List Http.Reply) :
    Refuses (adapter.run operation request replies) error := by
  obtain ⟨houtcome, hattempts⟩ := run_of_target_error h replies
  refine ⟨houtcome, ?_⟩
  unfold Call.requests
  rw [hattempts]
  rfl

/-! ## The checks of every operation -/

theorem refuses_invalidStructure (h : request.structureName ∉ adapter.registry.names)
    (operation : Operation) (replies : List Http.Reply) :
    Refuses (adapter.run operation request replies) (.invalidStructure request.structureName) := by
  have hstructure : adapter.registry.contains request.structureName = false := by
    rw [← Bool.not_eq_true, Registry.contains_eq_true_iff]
    exact h
  exact refuses_of_target (target_of_invalidStructure hstructure) replies

theorem refuses_notReady (hstructure : request.structureName ∈ adapter.registry.names)
    (hready : adapter.isReady = false) (operation : Operation) (replies : List Http.Reply) :
    Refuses (adapter.run operation request replies) .notReady := by
  have hclient : adapter.client = none := by simpa [isReady] using hready
  exact refuses_of_target
    (target_of_notReady (Registry.contains_eq_true_iff.mpr hstructure) hclient) replies

theorem exists_client_of_isReady (h : adapter.isReady = true) :
    ∃ client, adapter.client = some client :=
  Option.isSome_iff_exists.mp h

theorem refuses_unbound (hstructure : request.structureName ∈ adapter.registry.names)
    (hready : adapter.isReady = true) {before later : List String} {name : String}
    (hnames : placeholderNames request.query = before ++ name :: later)
    (hbefore : ∀ earlier ∈ before, IsBound request.parameters earlier)
    (hname : ¬ IsBound request.parameters name) (operation : Operation)
    (replies : List Http.Reply) :
    Refuses (adapter.run operation request replies) (.request (.unbound ⟨name⟩)) := by
  obtain ⟨client, hclient⟩ := exists_client_of_isReady hready
  exact refuses_of_target (target_of_unbound (Registry.contains_eq_true_iff.mpr hstructure) hclient
    (Template.resolve_of_unbound hnames hbefore hname)) replies

/-! ## The id of a retrieval -/

theorem recordId_of_no_term {template : String}
    (h : ∀ term ∈ terms template, ¬ term.HasKey recordIdKey) (resolved : String) :
    recordId template resolved = .error .missingId := by
  unfold recordId
  rw [Query.find?_eq_none_iff.mpr h]
  rfl

/-- The resolved query names no record if its first id term is absent or has no value. -/
theorem recordId_of_no_value {template resolved : String}
    (htemplate : ∃ term ∈ terms template, term.HasKey recordIdKey)
    (hresolved : ∀ term, Query.IsFirst resolved recordIdKey term → term.value = "") :
    recordId template resolved = .error .emptyId := by
  -- the template has an id, so the resolved query is read
  have hsome : (Query.find? template recordIdKey).isNone = false := by
    cases hfind : Query.find? template recordIdKey with
    | none =>
        obtain ⟨term, hterm, hkey⟩ := htemplate
        exact absurd hkey (Query.find?_eq_none_iff.mp hfind term hterm)
    | some value => rfl
  unfold recordId
  rw [hsome, if_neg (by decide)]
  cases hfind : Query.find? resolved recordIdKey with
  | none => rfl
  | some value =>
      obtain ⟨term, hfirst, rfl⟩ := Query.find?_eq_some_iff.mp hfind
      rw [hresolved term hfirst]
      rfl

/-- An id that cannot be read ends a retrieval that has passed the other checks. -/
theorem refuses_recordId (hstructure : request.structureName ∈ adapter.registry.names)
    (hready : adapter.isReady = true) {resolved : String}
    (hresolve : Template.resolve request.query request.parameters = .ok resolved)
    {error : RequestError} (h : recordId request.query resolved = .error error)
    (replies : List Http.Reply) :
    Refuses (adapter.run .retrieve request replies) (.request error) := by
  obtain ⟨client, hclient⟩ := exists_client_of_isReady hready
  refine refuses_of_target ?_ replies
  rw [target_of_resolve (Registry.contains_eq_true_iff.mpr hstructure) hclient hresolve,
    Operation.resource_retrieve, h]
  rfl

/-- Whatever is bound, a template without an id is refused. -/
theorem exists_refuses_of_no_term (h : ∀ term ∈ terms request.query, ¬ term.HasKey recordIdKey)
    (replies : List Http.Reply) :
    ∃ error, Refuses (adapter.run .retrieve request replies) error := by
  by_cases hstructure : request.structureName ∈ adapter.registry.names
  · cases hready : adapter.isReady with
    | false => exact ⟨_, refuses_notReady hstructure hready .retrieve replies⟩
    | true =>
        by_cases hbound : ∀ name ∈ placeholderNames request.query, IsBound request.parameters name
        · exact ⟨_, refuses_recordId hstructure hready (Template.resolve_of_bound hbound)
            (recordId_of_no_term h _) replies⟩
        · obtain ⟨before, name, later, hnames, hbefore, hname⟩ :=
            Template.exists_first_unbound hbound
          exact ⟨_, refuses_unbound hstructure hready hnames hbefore hname .retrieve replies⟩
  · exact ⟨_, refuses_invalidStructure hstructure .retrieve replies⟩

/-! ## All checks in order -/

/-- In every state that an adapter can reach, a request is refused with the error of the
first check that it fails; and no operation changes the adapter. -/
theorem operations_refuse_in_order (endpoint : String) (registry : Registry) (attempts : Int)
    (override : Option Credentials) (actions : List Action) (request : Request)
    (replies : List Http.Reply) :
    let start := make endpoint registry attempts override
    let adapter := start.after actions
    let call := fun operation => adapter.run operation request replies
    (request.structureName ∉ registry.names →
      ∀ operation, Refuses (call operation) (.invalidStructure request.structureName)) ∧
    (request.structureName ∈ registry.names → start.acceptsAny actions = false →
      ∀ operation, Refuses (call operation) .notReady) ∧
    (request.structureName ∈ registry.names → start.acceptsAny actions = true →
      ∀ before name later, placeholderNames request.query = before ++ name :: later →
        (∀ earlier ∈ before, IsBound request.parameters earlier) →
        ¬ IsBound request.parameters name →
        ∀ operation, Refuses (call operation) (.request (.unbound ⟨name⟩))) ∧
    (request.structureName ∈ registry.names → start.acceptsAny actions = true →
      (∀ name ∈ placeholderNames request.query, IsBound request.parameters name) →
        ((∀ term ∈ terms request.query, ¬ term.HasKey recordIdKey) →
          Refuses (call .retrieve) (.request .missingId)) ∧
        ((∃ term ∈ terms request.query, term.HasKey recordIdKey) →
          (∀ term, Query.IsFirst (Template.filled request.query request.parameters) recordIdKey
            term → term.value = "") →
          Refuses (call .retrieve) (.request .emptyId))) ∧
    ((∀ term ∈ terms request.query, ¬ term.HasKey recordIdKey) →
      ∀ parameters, ∃ error, Refuses
        (adapter.run .retrieve { request with parameters := parameters } replies) error) ∧
    ∀ operation, (adapter.perform (.operate operation request replies)).1 = adapter := by
  intro start adapter call
  have hregistry : adapter.registry = registry := (sameSetup_after start actions).registry_eq
  have hready : adapter.isReady = start.acceptsAny actions := isReady_after start actions
  refine ⟨?_, ?_, ?_, ?_, ?_, fun operation => rfl⟩
  · rintro hstructure operation
    rw [← hregistry] at hstructure
    exact refuses_invalidStructure hstructure operation replies
  · rintro hstructure haccepts operation
    rw [← hregistry] at hstructure
    exact refuses_notReady hstructure (hready.trans haccepts) operation replies
  · rintro hstructure haccepts before name later hnames hbefore hname operation
    rw [← hregistry] at hstructure
    exact refuses_unbound hstructure (hready.trans haccepts) hnames hbefore hname operation replies
  · rintro hstructure haccepts hbound
    rw [← hregistry] at hstructure
    have hresolve := Template.resolve_of_bound hbound
    refine ⟨fun hno => ?_, fun htemplate hempty => ?_⟩
    · exact refuses_recordId hstructure (hready.trans haccepts) hresolve
        (recordId_of_no_term hno _) replies
    · exact refuses_recordId hstructure (hready.trans haccepts) hresolve
        (recordId_of_no_value htemplate hempty) replies
  · intro hno parameters
    refine exists_refuses_of_no_term ?_ replies
    exact hno

/-- A value that looks like an id term does not make up for a missing one. -/
theorem value_does_not_supply_id :
    let adapter := (make "http://h" .default 1 none).after
      [.setProperties [(PropertyMap.usernameKey, some "user"),
        (PropertyMap.passwordKey, some "pass")], .connect [.answer ⟨200, [], []⟩]]
    Refuses (adapter.run .retrieve
      ⟨"FirstStructure", "name=<%=parameter[\"Name\"]%>", [("Name", "x&id=7")], []⟩ [])
      (.request .missingId) := by
  intro adapter
  obtain ⟨-, -, -, hid, -⟩ := operations_refuse_in_order "http://h" .default 1 none
    [.setProperties [(PropertyMap.usernameKey, some "user"),
      (PropertyMap.passwordKey, some "pass")], .connect [.answer ⟨200, [], []⟩]]
    ⟨"FirstStructure", "name=<%=parameter[\"Name\"]%>", [("Name", "x&id=7")], []⟩ []
  exact (hid (by decide) (by decide +kernel) (by decide +kernel)).1 (by decide +kernel)

end QueryBridge.Bridge.Adapter
