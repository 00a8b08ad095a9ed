import QueryBridge.Bridge.Run
import QueryBridge.Proofs.Service.Admission
import QueryBridge.Proofs.Service.Call
import QueryBridge.Proofs.Service.Request

/-!
# What the operations do

All operations have one shape.  Their checks give an error, with which the operation ends, or
the `target`: a client and a resource.  Then the operation is one call of this client for this
resource, and it returns what it reads in the response.
-/

namespace QueryBridge.Bridge

open QueryBridge.Service (Call Client Journal)

namespace Operation

/-- The name of an operation in its records. -/
def name : Operation → String
  | .count => "count"
  | .retrieve => "retrieve"
  | .search => "search"

/-- The resource that an operation asks for, given the template and the resolved query. -/
def resource (operation : Operation) (template query : String) : Except RequestError String :=
  match operation with
  | .count => .ok (Service.countResource (Query.escape query))
  | .retrieve => (Adapter.recordId template query).map Service.recordResource
  | .search => .ok (Service.searchResource (Query.escape query))

/-- What an operation reads in a response. -/
def read [Runtime] (operation : Operation) (fields : List CodeString)
    (response : Http.Response) : Except Failure Returned :=
  match operation with
  | .count => (Client.readCount response).map fun value => .count ⟨value⟩
  | .retrieve =>
      (Client.readRecord response).map fun payload => .record (Record.ofPayload payload fields)
  | .search =>
      (Client.readRecords response).map fun payloads =>
        .page (RecordList.ofPayloads payloads fields)

theorem resource_retrieve (template query : String) :
    resource .retrieve template query =
      (Adapter.recordId template query).map Service.recordResource := rfl

theorem isRooted_resource {operation : Operation} {template query path : String}
    (h : operation.resource template query = .ok path) : Url.IsRooted path.toList := by
  cases operation with
  | count =>
      cases h
      exact Client.isRooted_countResource _
  | search =>
      cases h
      exact Client.isRooted_searchResource _
  | retrieve =>
      rw [resource_retrieve] at h
      cases hid : Adapter.recordId template query with
      | error error =>
          rw [hid] at h
          cases h
      | ok id =>
          rw [hid] at h
          cases h
          exact Client.isRooted_recordResource id

end Operation

namespace Adapter

/-- The client and the resource of an operation, or the error of the first check that the
request fails. -/
def target (adapter : Adapter) (operation : Operation) (request : Request) :
    Except Error (Client × String) :=
  match adapter.prepare request operation.name with
  | .error error => .error error
  | .ok prepared =>
      match operation.resource request.query prepared.query with
      | .error error => .error (.request error)
      | .ok resource => .ok (prepared.client, resource)

variable {adapter : Adapter} {operation : Operation} {request : Request}

/-! ## The checks -/

theorem target_of_invalidStructure
    (h : adapter.registry.contains request.structureName = false) :
    adapter.target operation request = .error (.invalidStructure request.structureName) := by
  unfold target prepare
  rw [h]
  rfl

theorem target_of_notReady (hstructure : adapter.registry.contains request.structureName = true)
    (hclient : adapter.client = none) : adapter.target operation request = .error .notReady := by
  unfold target prepare
  rw [hstructure, hclient]
  rfl

theorem target_of_unbound (hstructure : adapter.registry.contains request.structureName = true)
    {client : Client} (hclient : adapter.client = some client) {unbound : Template.Unbound}
    (hresolve : Template.resolve request.query request.parameters = .error unbound) :
    adapter.target operation request = .error (.request (.unbound unbound)) := by
  unfold target prepare
  rw [hstructure, hclient, hresolve]
  rfl

theorem target_of_resolve (hstructure : adapter.registry.contains request.structureName = true)
    {client : Client} (hclient : adapter.client = some client) {query : String}
    (hresolve : Template.resolve request.query request.parameters = .ok query) :
    adapter.target operation request =
      match operation.resource request.query query with
      | .error error => .error (.request error)
      | .ok resource => .ok (client, resource) := by
  unfold target prepare
  rw [hstructure, hclient, hresolve]
  rfl

/-- A request with a target has passed every check. -/
theorem target_eq_ok {client : Client} {resource : String}
    (h : adapter.target operation request = .ok (client, resource)) :
    adapter.client = some client ∧
      ∃ query, Template.resolve request.query request.parameters = .ok query ∧
        operation.resource request.query query = .ok resource := by
  cases hstructure : adapter.registry.contains request.structureName with
  | false =>
      rw [target_of_invalidStructure hstructure] at h
      cases h
  | true =>
      cases hclient : adapter.client with
      | none =>
          rw [target_of_notReady hstructure hclient] at h
          cases h
      | some used =>
          cases hresolve : Template.resolve request.query request.parameters with
          | error unbound =>
              rw [target_of_unbound hstructure hclient hresolve] at h
              cases h
          | ok query =>
              rw [target_of_resolve hstructure hclient hresolve] at h
              split at h
              · cases h
              · next path hpath =>
                  cases h
                  exact ⟨rfl, query, rfl, hpath⟩

/-! ## The calls -/

section

variable [Runtime]

/-- A request that fails a check ends with the check's error and sends nothing. -/
theorem run_of_target_error {error : Error}
    (h : adapter.target operation request = .error error) (replies : List Http.Reply) :
    (adapter.run operation request replies).outcome = .error (.reported error) ∧
      (adapter.run operation request replies).attempts = [] := by
  unfold target at h
  cases hprepare : adapter.prepare request operation.name with
  | error failed =>
      rw [hprepare] at h
      cases h
      cases operation with
      | count =>
          unfold run count operate
          rw [show adapter.prepare request "count" = _ from hprepare]
          exact ⟨rfl, rfl⟩
      | retrieve =>
          unfold run retrieve operate
          rw [show adapter.prepare request "retrieve" = _ from hprepare]
          exact ⟨rfl, rfl⟩
      | search =>
          unfold run search operate
          rw [show adapter.prepare request "search" = _ from hprepare]
          exact ⟨rfl, rfl⟩
  | ok prepared =>
      -- only a retrieval can fail after the checks that all operations make
      rw [hprepare] at h
      dsimp only at h
      cases operation with
      | count => cases h
      | search => cases h
      | retrieve =>
          unfold run retrieve operate
          rw [show adapter.prepare request "retrieve" = _ from hprepare]
          rw [Operation.resource_retrieve] at h
          dsimp only
          cases hid : recordId request.query prepared.query with
          | error failed =>
              rw [hid] at h
              cases h
              exact ⟨rfl, rfl⟩
          | ok id =>
              rw [hid] at h
              cases h

/-- A record is made of what a response holds, which is never too deep for that. -/
theorem bind_ofPayloadWithin? (fields : List CodeString) (response : Http.Response) :
    ((Client.readRecord response).bind fun payload =>
        (Record.ofPayloadWithin? Runtime.writingLevels payload fields).elim
          (.error .tooDeep) .ok) =
      (Client.readRecord response).map fun payload => Record.ofPayload payload fields := by
  cases hread : Client.readRecord response with
  | error failure => rfl
  | ok payload =>
      dsimp only [Except.bind, Except.map]
      rw [(Client.isReadable_of_readRecord hread).ofPayloadWithin?]
      rfl

theorem bind_ofPayloadsWithin? (fields : List CodeString) (response : Http.Response) :
    ((Client.readRecords response).bind fun payloads =>
        (RecordList.ofPayloadsWithin? Runtime.writingLevels payloads fields).elim
          (.error .tooDeep) .ok) =
      (Client.readRecords response).map fun payloads =>
        RecordList.ofPayloads payloads fields := by
  cases hread : Client.readRecords response with
  | error failure => rfl
  | ok payloads =>
      dsimp only [Except.bind, Except.map]
      rw [Service.ofPayloadsWithin?_of_isReadable (Client.isReadable_of_readRecords hread)]
      rfl

omit [Runtime] in
theorem bind_bind_of_read {α β : Type} {outcome : Except Failure Http.Response}
    {first : Http.Response → Except Failure α} {second : α → Except Failure β}
    {third : β → Except Failure Returned} {read : Http.Response → Except Failure Returned}
    (h : ∀ response, ((first response).bind second).bind third = read response) :
    ((outcome.bind first).bind second).bind third = outcome.bind read := by
  cases outcome with
  | error failure => rfl
  | ok response => exact h response

/-- Otherwise the operation is one call for its resource. -/
theorem run_of_target_ok {client : Client} {resource : String}
    (h : adapter.target operation request = .ok (client, resource)) (replies : List Http.Reply) :
    (adapter.run operation request replies).outcome =
        (client.fetch adapter.journal resource replies).outcome.bind
          (operation.read request.fields) ∧
      (adapter.run operation request replies).attempts =
        (client.fetch adapter.journal resource replies).attempts := by
  unfold target at h
  cases hprepare : adapter.prepare request operation.name with
  | error failed =>
      rw [hprepare] at h
      cases h
  | ok prepared =>
      rw [hprepare] at h
      dsimp only at h
      cases operation with
      | count =>
          unfold run count operate
          rw [show adapter.prepare request "count" = _ from hprepare]
          cases h
          refine ⟨?_, by simp [Client.fetchCount]⟩
          simp only [Client.fetchCount, Call.outcome_andThen, Call.outcome_log]
          exact bind_bind_of_read fun response => by
            unfold Operation.read
            cases Client.readCount response <;> rfl
      | search =>
          unfold run search operate
          rw [show adapter.prepare request "search" = _ from hprepare]
          cases h
          refine ⟨?_, by simp [Client.searchRecords]⟩
          simp only [Client.searchRecords, Call.outcome_andThen, Call.outcome_log]
          exact bind_bind_of_read fun response => by
            rw [bind_ofPayloadsWithin?, Operation.read]
            cases Client.readRecords response <;> rfl
      | retrieve =>
          unfold run retrieve operate
          rw [show adapter.prepare request "retrieve" = _ from hprepare]
          rw [Operation.resource_retrieve] at h
          dsimp only
          cases hid : recordId request.query prepared.query with
          | error failed =>
              rw [hid] at h
              cases h
          | ok id =>
              rw [hid] at h
              cases h
              refine ⟨?_, by simp [Client.fetchRecord]⟩
              simp only [Client.fetchRecord, Call.outcome_andThen, Call.outcome_log]
              exact bind_bind_of_read fun response => by
                rw [bind_ofPayloadWithin?, Operation.read]
                cases Client.readRecord response <;> rfl

/-- What an operation does depends on the request by its target and the fields only. -/
theorem run_congr {operation : Operation} {first second : Request}
    (htarget : adapter.target operation first = adapter.target operation second)
    (hfields : first.fields = second.fields) (replies : List Http.Reply) :
    (adapter.run operation first replies).attempts =
        (adapter.run operation second replies).attempts ∧
      (adapter.run operation first replies).outcome =
        (adapter.run operation second replies).outcome := by
  cases hsecond : adapter.target operation second with
  | error error =>
      obtain ⟨houtcome, hattempts⟩ := run_of_target_error (htarget.trans hsecond) replies
      obtain ⟨houtcome', hattempts'⟩ := run_of_target_error hsecond replies
      exact ⟨hattempts.trans hattempts'.symm, houtcome.trans houtcome'.symm⟩
  | ok found =>
      obtain ⟨client, resource⟩ := found
      obtain ⟨houtcome, hattempts⟩ := run_of_target_ok (htarget.trans hsecond) replies
      obtain ⟨houtcome', hattempts'⟩ := run_of_target_ok hsecond replies
      refine ⟨hattempts.trans hattempts'.symm, ?_⟩
      calc (adapter.run operation first replies).outcome
          = (client.fetch adapter.journal resource replies).outcome.bind
              (operation.read second.fields) := by rw [houtcome, hfields]
        _ = (adapter.run operation second replies).outcome := houtcome'.symm

/-- Every attempt of an operation begins with a request of the adapter's client. -/
theorem exists_request_of_mem_attempts_run {replies : List Http.Reply}
    {attempt : Http.Attempt} (h : attempt ∈ (adapter.run operation request replies).attempts) :
    ∃ client resource sent, adapter.client = some client ∧
      resource.toList.head? = some '/' ∧ client.request resource = .ok sent ∧
      attempt.requests.head? = some sent := by
  cases htarget : adapter.target operation request with
  | error error =>
      rw [(run_of_target_error htarget replies).2] at h
      exact absurd h List.not_mem_nil
  | ok found =>
      obtain ⟨client, resource⟩ := found
      rw [(run_of_target_ok htarget replies).2] at h
      obtain ⟨sent, hsent, hhead⟩ := Client.exists_request_of_mem_attempts_fetch h
      obtain ⟨hclient, query, -, hresource⟩ := target_eq_ok htarget
      have hslash := (Operation.isRooted_resource hresource).head?_eq
      exact ⟨client, resource, sent, hclient, hslash, hsent, hhead⟩

end

end Adapter

end QueryBridge.Bridge
