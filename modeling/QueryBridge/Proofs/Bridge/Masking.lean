import QueryBridge.Proofs.Bridge.Connection
import QueryBridge.Proofs.Service.Concealment

/-!
# The records of an adapter, with and without mask

An action's records are made in plain text first and then masked by the redactor that the
adapter has after the action.  Nothing but the records depends on the redactor.
-/

namespace QueryBridge.Bridge.Adapter

open QueryBridge.Service (Call Client Journal)

/-- The records of an action before they are masked. -/
def unmaskedRecords [Runtime] (adapter : Adapter) : Action → List Log.Record
  | .setProperties _ | .listProperties => []
  | .connect replies | .verify replies =>
      match adapter.authorization with
      | .error _ => []
      | .ok authorization => (adapter.clearSecrets.connectWith authorization replies).records
  | .operate operation request replies =>
      (adapter.clearSecrets.run operation request replies).records

variable {adapter : Adapter}

theorem registry_clearSecrets (adapter : Adapter) :
    adapter.clearSecrets.registry = adapter.registry := rfl

theorem client_clearSecrets (adapter : Adapter) :
    adapter.clearSecrets.client = adapter.client := rfl

theorem redactor_clearSecrets (adapter : Adapter) :
    adapter.clearSecrets.redactor = .empty := rfl

theorem journal_clearSecrets (adapter : Adapter) :
    adapter.clearSecrets.journal = adapter.journal.plain := rfl

/-! ## Connecting -/

theorem connectWith_eq_mask (adapter : Adapter) (authorization : Authorization)
    (replies : List Http.Reply) :
    adapter.connectWith authorization replies =
      (adapter.clearSecrets.connectWith authorization replies).mask adapter.redactor := by
  unfold connectWith
  dsimp only [clearSecrets]
  cases Client.make adapter.endpoint (some authorization) [] adapter.attempts with
  | error failure => rfl
  | ok client =>
      dsimp only
      have hcheck : client.checkCredentials adapter.journal replies =
          (client.checkCredentials adapter.journal.plain replies).mask
            adapter.journal.redactor := by
        unfold Client.checkCredentials
        rw [Client.fetch_eq_mask]
        rfl
      rw [hcheck, Call.mask_andThen, Call.log_mask, Call.mask_andThen,
        Journal.record_eq_redact adapter.journal]
      rfl

/-! ## Operations -/

theorem prepare_clearSecrets (adapter : Adapter) (request : Request) (operation : String) :
    adapter.clearSecrets.prepare request operation =
      (adapter.prepare request operation).map fun prepared =>
        { prepared with journal := prepared.journal.plain } := by
  unfold prepare
  rw [registry_clearSecrets, client_clearSecrets, journal_clearSecrets]
  by_cases hstructure : (!adapter.registry.contains request.structureName) = true
  · rw [if_pos hstructure, if_pos hstructure]
    rfl
  · rw [if_neg hstructure, if_neg hstructure]
    cases adapter.client with
    | none => rfl
    | some client =>
        dsimp only
        cases Template.resolve request.query request.parameters with
        | error unbound => rfl
        | ok query => rfl

theorem redactor_of_prepare {request : Request} {operation : String} {prepared : Prepared}
    (h : adapter.prepare request operation = .ok prepared) :
    prepared.journal.redactor = adapter.redactor := by
  unfold prepare at h
  split at h
  · cases h
  · split at h
    · cases h
    · split at h
      · cases h
      · cases h
        rfl

/-- An operation is masked if what it does after its checks is. -/
theorem operate_eq_mask {α : Type} (adapter : Adapter) (request : Request) (operation : String)
    (replies : List Http.Reply) {run run' : Prepared → List Http.Reply → Call α}
    (h : ∀ prepared : Prepared, prepared.journal.redactor = adapter.redactor →
      run prepared replies =
        (run' { prepared with journal := prepared.journal.plain } replies).mask
          adapter.redactor) :
    adapter.operate request operation replies run =
      (adapter.clearSecrets.operate request operation replies run').mask adapter.redactor := by
  unfold operate
  rw [prepare_clearSecrets]
  cases hprepare : adapter.prepare request operation with
  | error error => rfl
  | ok prepared =>
      have hredactor := redactor_of_prepare hprepare
      dsimp only [Except.map]
      rw [h prepared hredactor, Journal.record_eq_redact prepared.journal, hredactor]
      rfl

/-- A call of the client, made in the journal of the adapter, in the terms of an operation. -/
theorem andThen_fetch_eq_mask {α : Type} {prepared : Prepared}
    (h : prepared.journal.redactor = adapter.redactor) (resource : String)
    (read : Http.Response → Except Failure α) (replies : List Http.Reply) :
    (prepared.client.fetch adapter.journal resource replies).andThen read =
      ((prepared.client.fetch adapter.journal.plain resource replies).andThen read).mask
        prepared.journal.redactor := by
  rw [Client.fetch_eq_mask, h]
  rfl

theorem count_eq_mask [Runtime] (adapter : Adapter) (request : Request)
    (replies : List Http.Reply) :
    adapter.count request replies =
      (adapter.clearSecrets.count request replies).mask adapter.redactor := by
  unfold count
  refine operate_eq_mask adapter request "count" replies fun prepared hredactor => ?_
  unfold Client.fetchCount
  rw [andThen_fetch_eq_mask hredactor]
  dsimp only
  rw [Call.log_mask, Call.mask_andThen, hredactor]
  rfl

theorem retrieve_eq_mask [Runtime] (adapter : Adapter) (request : Request)
    (replies : List Http.Reply) :
    adapter.retrieve request replies =
      (adapter.clearSecrets.retrieve request replies).mask adapter.redactor := by
  unfold retrieve
  refine operate_eq_mask adapter request "retrieve" replies fun prepared hredactor => ?_
  dsimp only
  cases recordId request.query prepared.query with
  | error error => rfl
  | ok id =>
      unfold Client.fetchRecord
      dsimp only
      rw [andThen_fetch_eq_mask hredactor, Call.log_mask, Call.mask_andThen, hredactor]
      rfl

theorem search_eq_mask [Runtime] (adapter : Adapter) (request : Request)
    (replies : List Http.Reply) :
    adapter.search request replies =
      (adapter.clearSecrets.search request replies).mask adapter.redactor := by
  unfold search
  refine operate_eq_mask adapter request "search" replies fun prepared hredactor => ?_
  unfold Client.searchRecords
  rw [andThen_fetch_eq_mask hredactor]
  dsimp only
  rw [Call.mask_andThen, Call.log_mask, hredactor]
  rfl

theorem run_eq_mask [Runtime] (adapter : Adapter) (operation : Operation) (request : Request)
    (replies : List Http.Reply) :
    adapter.run operation request replies =
      (adapter.clearSecrets.run operation request replies).mask adapter.redactor := by
  cases operation with
  | count =>
      unfold run
      dsimp only
      rw [count_eq_mask, Call.mask_andThen]
  | retrieve =>
      unfold run
      dsimp only
      rw [retrieve_eq_mask, Call.mask_andThen]
  | search =>
      unfold run
      dsimp only
      rw [search_eq_mask, Call.mask_andThen]

/-! ## Actions -/

theorem redactor_connect {authorization : Authorization}
    (h : adapter.authorization = .ok authorization) (replies : List Http.Reply) :
    (adapter.connect replies).1.redactor = adapter.redactor.add authorization.secrets := by
  rcases connect_cases adapter replies with
    ⟨error, herror, -⟩ | ⟨used, hused, ⟨-, hstate⟩ | ⟨-, hstate⟩⟩
  · rw [h] at herror
    cases herror
  · rw [h] at hused
    cases hused
    rw [hstate]
  · rw [h] at hused
    cases hused
    rw [hstate]

/-- The secrets that an action tells the redactor before it does anything else. -/
def learnedSecrets (adapter : Adapter) : Action → List CodeString
  | .connect _ | .verify _ =>
      match adapter.authorization with
      | .error _ => []
      | .ok authorization => authorization.secrets
  | .setProperties _ | .listProperties | .operate .. => []

theorem redactor_perform [Runtime] (adapter : Adapter) (action : Action) :
    (adapter.perform action).1.redactor =
      adapter.redactor.add (adapter.learnedSecrets action) := by
  have hconnect : ∀ replies, (adapter.connect replies).1.redactor =
      adapter.redactor.add (adapter.learnedSecrets (.connect replies)) := by
    intro replies
    unfold learnedSecrets
    cases hauthorization : adapter.authorization with
    | error error =>
        rw [connect_of_authorization_error hauthorization]
        rfl
    | ok authorization => exact redactor_connect hauthorization replies
  cases action with
  | connect replies => exact hconnect replies
  | verify replies => exact hconnect replies
  | setProperties values => rfl
  | listProperties => rfl
  | operate operation request replies => rfl

/-- A connection is masked with its own secrets, too. -/
theorem connect_eq_mask {authorization : Authorization}
    (h : adapter.authorization = .ok authorization) (replies : List Http.Reply) :
    (adapter.connect replies).2 =
      ((adapter.clearSecrets.connectWith authorization replies).andThen fun _ => .ok ()).mask
        (adapter.connect replies).1.redactor := by
  -- the records are masked by the redactor that has the new secrets already
  have hcall : (adapter.connect replies).2 =
      (({ adapter with redactor := adapter.redactor.add authorization.secrets } :
        Adapter).connectWith authorization replies).andThen fun _ => .ok () := by
    unfold connect
    rw [h]
  rw [hcall, connectWith_eq_mask, redactor_connect h, Call.mask_andThen]
  rfl

theorem records_connect [Runtime] (adapter : Adapter) (replies : List Http.Reply) :
    (adapter.connect replies).2.records =
      (adapter.unmaskedRecords (.connect replies)).map
        (Log.Record.redact (adapter.connect replies).1.redactor) := by
  unfold unmaskedRecords
  cases hauthorization : adapter.authorization with
  | error error =>
      rw [connect_of_authorization_error hauthorization]
      rfl
  | ok authorization =>
      rw [connect_eq_mask hauthorization]
      rfl

/-- The records of an action are its unmasked records, masked with the secrets that the
adapter knows after it. -/
theorem records_perform [Runtime] (adapter : Adapter) (action : Action) :
    (adapter.perform action).2.records =
      (adapter.unmaskedRecords action).map
        (Log.Record.redact (adapter.perform action).1.redactor) := by
  cases action with
  | setProperties values => rfl
  | listProperties => rfl
  | connect replies => exact records_connect adapter replies
  | verify replies => exact records_connect adapter replies
  | operate operation request replies =>
      unfold perform unmaskedRecords
      dsimp only
      rw [run_eq_mask]
      rfl

end QueryBridge.Bridge.Adapter
