import QueryBridge.Proofs.Fields
import QueryBridge.Record

/-!
# Records

A record has the requested names, each once, or those of the object if none are requested.  A
scalar stands for itself, so what a record holds stays as it is when a record is made of it again,
and limiting a record to some of its fields is the same as making it with these fields at once.
-/

namespace QueryBridge

open Json (Members Value)

/-! ## Scalars -/

@[simp] theorem Scalar.ofValue_toValue (scalar : Scalar) : ofValue scalar.toValue = scalar := by
  cases scalar <;> rfl

namespace Record

variable {payload : Members} {fields others : List CodeString} {name : CodeString}

/-! ## Fields of a record -/

theorem ofPayload_of_ne_nil (h : fields ≠ []) (payload : Members) :
    ofPayload payload fields = ⟨Fields.ofList (fields.map fun name =>
      (name, Scalar.ofValue ((Fields.get? payload name).getD .null)))⟩ := by
  rw [ofPayload, selected, if_neg (by simpa using h), Fields.mapValues, List.map_map]
  rfl

/-- Without requested fields, every field of the object keeps its place. -/
theorem ofPayload_nil (h : (Fields.names payload).Nodup) :
    ofPayload payload [] = ⟨Fields.mapValues Scalar.ofValue payload⟩ := calc
  ofPayload payload [] = ⟨Fields.ofList (Fields.mapValues Scalar.ofValue payload)⟩ := rfl
  _ = ⟨Fields.mapValues Scalar.ofValue payload⟩ := by rw [Fields.ofList_mapValues _ h]

theorem names_ofPayload (h : fields ≠ []) (payload : Members) :
    Fields.names (ofPayload payload fields).values = fields.eraseDups := by
  rw [ofPayload_of_ne_nil h, Fields.names_ofList, List.map_map]
  exact congrArg List.eraseDups (List.map_id fields)

theorem nodup_names_ofPayload (payload : Members) (fields : List CodeString) :
    (Fields.names (ofPayload payload fields).values).Nodup :=
  Fields.nodup_names_ofList _

/-- A requested field has the value of the object's field, or null if there is none. -/
theorem get?_ofPayload (payload : Members) (h : name ∈ fields) :
    (ofPayload payload fields).get? name =
      some (Scalar.ofValue ((Fields.get? payload name).getD .null)) := by
  rw [ofPayload_of_ne_nil (List.ne_nil_of_mem h)]
  exact Fields.get?_ofList_map fields
    (fun name => Scalar.ofValue ((Fields.get? payload name).getD .null)) h

theorem get?_ofPayload_nil (h : (Fields.names payload).Nodup) (name : CodeString) :
    (ofPayload payload []).get? name = (Fields.get? payload name).map Scalar.ofValue := by
  rw [ofPayload_nil h, get?, Fields.get?_mapValues]

/-! ## Values that can be written -/

/-- What an object holds at each name, or null, is what a record of it is made of. -/
theorem mem_selected {field : CodeString × Value} (h : field ∈ selected payload fields) :
    field ∈ payload ∨ field.2 = .null := by
  unfold selected at h
  split at h
  · exact Or.inl h
  · obtain ⟨name, -, rfl⟩ := List.mem_map.mp h
    cases hvalue : Fields.get? payload name with
    | none => exact Or.inr rfl
    | some value => exact Or.inl (Fields.mem_of_get? hvalue)

theorem ofPayloadWithin?_eq_some_iff {levels : Nat} {record : Record} :
    ofPayloadWithin? levels payload fields = some record ↔
      (∀ field ∈ selected payload fields, field.2.depth ≤ levels) ∧
        ofPayload payload fields = record := by
  rw [ofPayloadWithin?, Option.ite_none_right_eq_some, List.all_eq_true, Option.some.injEq]
  simp only [decide_eq_true_eq]

/-- Nothing fails for an object whose values nest no deeper than can be written. -/
theorem ofPayloadWithin?_of_depth_le {levels : Nat}
    (h : ∀ field ∈ payload, field.2.depth ≤ levels) (fields : List CodeString) :
    ofPayloadWithin? levels payload fields = some (ofPayload payload fields) := by
  refine ofPayloadWithin?_eq_some_iff.mpr ⟨fun field hfield => ?_, rfl⟩
  rcases mem_selected hfield with hfield | hnull
  · exact h field hfield
  · rw [hnull]
    exact Nat.zero_le levels

/-! ## Records of records -/

/-- The record limited to the given fields, if there are any. -/
def project (record : Record) (fields : List CodeString) : Record :=
  ofPayload record.toPayload fields

theorem get?_toPayload (record : Record) (name : CodeString) :
    Fields.get? record.toPayload name = (record.get? name).map Scalar.toValue :=
  Fields.get?_mapValues Scalar.toValue record.values name

/-- A record whose names differ is the record of its own values. -/
theorem project_nil {record : Record} (h : (Fields.names record.values).Nodup) :
    record.project [] = record := by
  have hnames : (Fields.names record.toPayload).Nodup := by
    rw [toPayload, Fields.names_mapValues]
    exact h
  have hvalues : Fields.mapValues Scalar.ofValue record.toPayload = record.values := by
    unfold toPayload Fields.mapValues
    rw [List.map_map]
    conv_rhs => rw [← List.map_id record.values]
    exact List.map_congr_left fun field _ => by simp
  rw [project, ofPayload_nil hnames, hvalues]

/-- Limiting depends on the values of the given fields only. -/
theorem project_congr {record : Record} (h : fields ≠ [])
    (hvalues : ∀ name ∈ fields, (record.get? name).getD .null =
      Scalar.ofValue ((Fields.get? payload name).getD .null)) :
    record.project fields = ofPayload payload fields := by
  have hread : ∀ name ∈ fields,
      Scalar.ofValue ((Fields.get? record.toPayload name).getD .null) =
        Scalar.ofValue ((Fields.get? payload name).getD .null) := by
    intro name hname
    rw [← hvalues name hname, get?_toPayload]
    cases record.get? name with
    | none => rfl
    | some scalar => exact Scalar.ofValue_toValue scalar
  have hpairs : (fields.map fun name =>
      (name, Scalar.ofValue ((Fields.get? record.toPayload name).getD .null))) =
        fields.map fun name => (name, Scalar.ofValue ((Fields.get? payload name).getD .null)) :=
    List.map_congr_left fun name hname => by rw [hread name hname]
  rw [project, ofPayload_of_ne_nil h, ofPayload_of_ne_nil h, hpairs]

/-- The requested fields can be taken from the record of all fields. -/
theorem project_ofPayload_nil (h : (Fields.names payload).Nodup) (fields : List CodeString) :
    (ofPayload payload []).project fields = ofPayload payload fields := by
  by_cases hfields : fields = []
  · subst hfields
    exact project_nil (nodup_names_ofPayload payload [])
  · apply project_congr hfields
    intro name _
    rw [get?_ofPayload_nil h]
    cases Fields.get? payload name <;> rfl

/-- Some of the requested fields can be taken from the record of the requested ones. -/
theorem project_ofPayload (hothers : others ≠ []) (hsubset : others ⊆ fields)
    (payload : Members) :
    (ofPayload payload fields).project others = ofPayload payload others := by
  apply project_congr hothers
  intro name hname
  rw [get?_ofPayload payload (hsubset hname), Option.getD_some]

theorem ofPayload_names (hne : payload ≠ []) (h : (Fields.names payload).Nodup) :
    ofPayload payload (Fields.names payload) = ofPayload payload [] := by
  have hnames : Fields.names payload ≠ [] := by
    unfold Fields.names
    simpa using hne
  have hpairs : ((Fields.names payload).map fun name =>
      (name, Scalar.ofValue ((Fields.get? payload name).getD .null))) =
        Fields.mapValues Scalar.ofValue payload := by
    unfold Fields.names Fields.mapValues
    rw [List.map_map]
    apply List.map_congr_left
    intro field hfield
    have hfound : Fields.get? payload field.1 = some field.2 := Fields.get?_of_mem h hfield
    simp [hfound]
  rw [ofPayload_of_ne_nil hnames, hpairs, Fields.ofList_mapValues _ h, ofPayload_nil h]

end Record

end QueryBridge
