import QueryBridge.Proofs.Bridge.Operation
import QueryBridge.Proofs.Service.Admission

/-!
# Results as documents

What an operation returns is shown as one JSON object.  Its names differ and its integers have an
admitted size, because a record takes both from the fields of a document that was read.
-/

namespace QueryBridge

open Json (Members Value)
open Service (AreAdmitted)

/-! ## Records -/

theorem Scalar.isAdmitted_ofString (string : CodeString) :
    (toValue (ofString string)).Everywhere Value.IsAdmitted := by
  cases string <;> exact Value.everywhere_of_parts rfl trivial

theorem Scalar.isAdmitted_toValue {value : Value} (h : value.IsAdmitted) :
    (toValue (ofValue value)).Everywhere Value.IsAdmitted := by
  cases value with
  | int number => exact Value.everywhere_of_parts rfl h
  | array items => exact isAdmitted_ofString _
  | object fields => exact isAdmitted_ofString _
  | _ => exact Value.everywhere_of_parts rfl trivial

namespace Record

/-- The record of an admitted object is admitted, whatever its requested fields are. -/
theorem areAdmitted_ofPayload {payload : Members} (h : AreAdmitted payload)
    (fields : List CodeString) : AreAdmitted (ofPayload payload fields).toPayload := by
  refine Value.everywhere_object_iff.mpr ⟨?_, fun field hfield => ?_⟩
  · rw [Value.IsAdmitted, toPayload, Fields.names_mapValues]
    exact nodup_names_ofPayload payload fields
  · obtain ⟨given, hgiven, rfl⟩ := List.mem_map.mp hfield
    obtain ⟨pair, hpair, rfl⟩ := List.mem_map.mp (Fields.mem_of_mem_ofList hgiven)
    refine Scalar.isAdmitted_toValue ?_
    rcases mem_selected hpair with hpair | hnull
    · exact ((Value.everywhere_object_iff.mp h).2 pair hpair).self
    · rw [hnull]
      exact trivial

end Record

/-- The page of admitted objects is admitted. -/
theorem RecordList.isAdmitted_ofPayloads {payloads : List Members}
    (h : ∀ payload ∈ payloads, AreAdmitted payload) (fields : List CodeString) :
    (ofPayloads payloads fields).toValue.Everywhere Value.IsAdmitted := by
  have hfields : (Value.array (fields.map .ofString)).Everywhere Value.IsAdmitted := by
    refine Value.everywhere_array_iff.mpr ⟨trivial, fun item hitem => ?_⟩
    obtain ⟨name, -, rfl⟩ := List.mem_map.mp hitem
    cases name <;> exact Value.everywhere_of_parts rfl trivial
  have hrecords : (Value.array ((ofPayloads payloads fields).records.map fun record =>
      .object record.toPayload)).Everywhere Value.IsAdmitted := by
    refine Value.everywhere_array_iff.mpr ⟨trivial, fun item hitem => ?_⟩
    obtain ⟨record, hrecord, rfl⟩ := List.mem_map.mp hitem
    obtain ⟨payload, hpayload, rfl⟩ := List.mem_map.mp hrecord
    exact Record.areAdmitted_ofPayload (h payload hpayload) fields
  have hmetadata : (Value.object ((ofPayloads payloads fields).metadata.map fun field =>
      (↑field.1, .text field.2))).Everywhere Value.IsAdmitted := by
    refine Value.everywhere_object_iff.mpr ⟨by simp [Value.IsAdmitted, Fields.names,
      ofPayloads, ofRecords], fun field hfield => ?_⟩
    obtain ⟨entry, -, rfl⟩ := List.mem_map.mp hfield
    exact Value.everywhere_of_parts rfl trivial
  refine Value.everywhere_object_iff.mpr ⟨by simp [Value.IsAdmitted, Fields.names], ?_⟩
  simp only [List.forall_mem_cons]
  exact ⟨hfields, hrecords, hmetadata, List.forall_mem_nil _⟩

namespace Bridge

/-! ## Results -/

/-- The document in which the result of an operation is shown. -/
def Returned.document? : Returned → Option Value
  | .count result => some (.object [("count", .int result.value)])
  | .record result => some (.object [("record", .object result.toPayload)])
  | .page result => some result.toValue
  | .nothing | .listings _ | .verification _ => none

theorem isAdmitted_singleton {name : CodeString} {value : Value}
    (h : value.Everywhere Value.IsAdmitted) :
    (Value.object [(name, value)]).Everywhere Value.IsAdmitted :=
  Value.everywhere_object_iff.mpr ⟨List.pairwise_singleton _ name, List.forall_mem_singleton.mpr h⟩

/-- What an operation reads in a response has an admitted document. -/
theorem Operation.exists_document_of_read [Runtime] {operation : Operation}
    {fields : List CodeString} {response : Http.Response} {returned : Returned}
    (h : operation.read fields response = .ok returned) :
    ∃ value, returned.document? = some value ∧ value.Everywhere Value.IsAdmitted := by
  cases operation with
  | count =>
      obtain ⟨count, hread, rfl⟩ := exists_of_map_eq_ok h
      have hcount : (Value.int count).IsAdmitted := Service.Client.lt_of_readCount hread
      exact ⟨_, rfl, isAdmitted_singleton (Value.everywhere_of_parts rfl hcount)⟩
  | retrieve =>
      obtain ⟨payload, hread, rfl⟩ := exists_of_map_eq_ok h
      exact ⟨_, rfl, isAdmitted_singleton (Record.areAdmitted_ofPayload
        (Service.Client.isReadable_of_readRecord hread).admitted fields)⟩
  | search =>
      obtain ⟨payloads, hread, rfl⟩ := exists_of_map_eq_ok h
      exact ⟨_, rfl, RecordList.isAdmitted_ofPayloads
        (fun payload hpayload =>
          (Service.Client.isReadable_of_readRecords hread payload hpayload).admitted) fields⟩

/-- What an operation returns has an admitted document. -/
theorem Adapter.exists_document_of_run [Runtime] {adapter : Adapter} {operation : Operation}
    {request : Request} {replies : List Http.Reply} {returned : Returned}
    (h : (adapter.run operation request replies).outcome = .ok returned) :
    ∃ value, returned.document? = some value ∧ value.Everywhere Value.IsAdmitted := by
  cases htarget : adapter.target operation request with
  | error error =>
      rw [(run_of_target_error htarget replies).1] at h
      cases h
  | ok target =>
      rw [(run_of_target_ok htarget replies).1] at h
      obtain ⟨response, -, hread⟩ := exists_of_bind_eq_ok h
      exact Operation.exists_document_of_read hread

end Bridge

end QueryBridge
