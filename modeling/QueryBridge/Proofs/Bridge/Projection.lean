import QueryBridge.Proofs.Bridge.Operation
import QueryBridge.Proofs.Record
import QueryBridge.Proofs.Service.Admission
import QueryBridge.Runtime.Standard

/-!
# Requested fields

The requested fields play no part in what an operation sends.  It returns the result of the same
request without requested fields, limited to them.
-/

namespace QueryBridge

open Json (Members Value)
open Service (Client IsReadable)

theorem Service.IsReadable.nodup_names [Runtime] {payload : Members}
    (h : IsReadable (.object payload)) : (Fields.names payload).Nodup :=
  Json.Value.Everywhere.self h.admitted

/-- The page with every record limited to the given fields. -/
def RecordList.project (page : RecordList) (fields : List CodeString) : RecordList :=
  ⟨fields, page.records.map fun record => record.project fields, page.metadata⟩

theorem RecordList.project_ofPayloads {payloads : List (Members)}
    (h : ∀ payload ∈ payloads, (Fields.names payload).Nodup) (fields : List CodeString) :
    (ofPayloads payloads []).project fields = ofPayloads payloads fields := by
  have hrecords : (payloads.map fun payload => Record.ofPayload payload []).map
      (fun record => record.project fields) =
        payloads.map fun payload => Record.ofPayload payload fields := by
    rw [List.map_map]
    exact List.map_congr_left fun payload hpayload =>
      Record.project_ofPayload_nil (h payload hpayload) fields
  unfold project ofPayloads ofRecords
  rw [hrecords, List.length_map, List.length_map]

namespace Bridge

/-- The result with its records limited to the given fields. -/
def Returned.project (returned : Returned) (fields : List CodeString) : Returned :=
  match returned with
  | .record result => .record (result.project fields)
  | .page result => .page (result.project fields)
  | .count _ | .nothing | .listings _ | .verification _ => returned

/-- The requested fields can be applied to what is read without them. -/
theorem Operation.read_eq_map [Runtime] (operation : Operation) (fields : List CodeString)
    (response : Http.Response) :
    operation.read fields response =
      (operation.read [] response).map fun returned => returned.project fields := by
  cases operation with
  | count =>
      unfold Operation.read
      cases Client.readCount response with
      | error failure => rfl
      | ok count => rfl
  | retrieve =>
      unfold Operation.read
      cases hread : Client.readRecord response with
      | error failure => rfl
      | ok payload =>
          have hnames := (Client.isReadable_of_readRecord hread).nodup_names
          have hproject : (Record.ofPayload payload []).project fields =
              Record.ofPayload payload fields := Record.project_ofPayload_nil hnames fields
          simp only [Except.map, Returned.project, hproject]
  | search =>
      unfold Operation.read
      cases hread : Client.readRecords response with
      | error failure => rfl
      | ok payloads =>
          have hnames : ∀ payload ∈ payloads, (Fields.names payload).Nodup := by
            intro payload hpayload
            exact (Client.isReadable_of_readRecords hread payload hpayload).nodup_names
          have hproject : (RecordList.ofPayloads payloads []).project fields =
              RecordList.ofPayloads payloads fields :=
            RecordList.project_ofPayloads hnames fields
          simp only [Except.map, Returned.project, hproject]

namespace Adapter

/-- The requested fields change nothing of what is sent, and only limit what is returned. -/
theorem run_with_fields [Runtime] (adapter : Adapter) (operation : Operation) (request : Request)
    (fields : List CodeString) (replies : List Http.Reply) :
    let full := adapter.run operation { request with fields := [] } replies
    let limited := adapter.run operation { request with fields := fields } replies
    limited.attempts = full.attempts ∧
      limited.outcome = full.outcome.map fun returned => returned.project fields := by
  intro full limited
  have htarget : adapter.target operation { request with fields := fields } =
      adapter.target operation { request with fields := [] } := rfl
  cases hfound : adapter.target operation { request with fields := [] } with
  | error error =>
      obtain ⟨hfull, hfullAttempts⟩ := run_of_target_error hfound replies
      obtain ⟨hlimited, hattempts⟩ := run_of_target_error (htarget.trans hfound) replies
      refine ⟨hattempts.trans hfullAttempts.symm, ?_⟩
      rw [show limited.outcome = _ from hlimited, show full.outcome = _ from hfull]
      rfl
  | ok target =>
      obtain ⟨client, resource⟩ := target
      obtain ⟨hfull, hfullAttempts⟩ := run_of_target_ok hfound replies
      obtain ⟨hlimited, hattempts⟩ := run_of_target_ok (htarget.trans hfound) replies
      refine ⟨hattempts.trans hfullAttempts.symm, ?_⟩
      rw [show limited.outcome = _ from hlimited, show full.outcome = _ from hfull]
      cases (client.fetch adapter.journal resource replies).outcome with
      | error failure => rfl
      | ok response => exact operation.read_eq_map fields response

end Adapter

end Bridge

end QueryBridge
