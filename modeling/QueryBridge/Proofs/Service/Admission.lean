import QueryBridge.Proofs.Failure
import QueryBridge.Proofs.Json.Admission
import QueryBridge.Proofs.Record
import QueryBridge.Proofs.Service.Classification

/-!
# What is read from responses

Counts and records come from the documents in bodies, so their integers have an admitted size, and
the values of a record nest no deeper than can be written.  A count that is stated in digits is
admitted for its number of digits.
-/

namespace QueryBridge

open Json (Members Value)

theorem Count.lt_of_ofValue {value : Value} {count : Nat} (h : ofValue value = .ok count)
    (hvalue : value.IsAdmitted) : count < 10 ^ Json.Token.maxDigits := by
  cases value with
  | int number =>
      rw [ofValue] at h
      split at h
      · next hpos =>
          cases h
          have habs : number.toNat = number.natAbs := by omega
          rw [habs]
          exact hvalue
      · cases h
  | text text =>
      simp only [ofValue] at h
      split at h
      · cases h
      · next hdigits =>
          split at h
          · cases h
          · next hlength =>
              cases h
              simp only [Bool.or_eq_true, Bool.not_eq_true', not_or, Bool.not_eq_false,
                List.all_eq_true] at hdigits
              exact Nat.lt_of_lt_of_le (Text.foldl_digits_lt hdigits.2)
                (Nat.pow_le_pow_right (by decide) (Nat.le_of_not_lt hlength))
  | _ => cases h

namespace Service

/-- The fields of an object whose parts are all admitted. -/
def AreAdmitted (fields : Members) : Prop :=
  (Value.object fields).Everywhere Value.IsAdmitted

variable [Runtime]

/-- The value can be part of a document that is read. -/
def IsReadable (value : Value) : Prop :=
  value.Fits Runtime.readingLevels 0

theorem IsReadable.get? {fields : Members} {name : CodeString} {value : Value}
    (h : IsReadable (.object fields)) (hvalue : Fields.get? fields name = some value) :
    IsReadable value where
  admitted := (Value.everywhere_object_iff.mp h.admitted).2 _ (Fields.mem_of_get? hvalue)
  depth_le := by
    have hdepth := Value.depthOfFields_le_iff.mp (Nat.le_refl _) _ (Fields.mem_of_get? hvalue)
    have hobject := h.depth_le
    rw [Value.depth] at hobject
    dsimp only at hdepth
    omega

theorem IsReadable.item {items : List Value} {item : Value}
    (h : IsReadable (.array items)) (hitem : item ∈ items) : IsReadable item where
  admitted := (Value.everywhere_array_iff.mp h.admitted).2 item hitem
  depth_le := by
    have hdepth := Value.depthOfItems_le_iff.mp (Nat.le_refl _) item hitem
    have harray := h.depth_le
    rw [Value.depth] at harray
    omega

/-- What was read is never too deep to be written. -/
theorem IsReadable.ofPayloadWithin? {payload : Members} (h : IsReadable (.object payload))
    (fields : List CodeString) :
    Record.ofPayloadWithin? Runtime.writingLevels payload fields =
      some (Record.ofPayload payload fields) := by
  refine Record.ofPayloadWithin?_of_depth_le (fun field hfield => ?_) fields
  have hdepth := Value.depthOfFields_le_iff.mp (Nat.le_refl _) field hfield
  have hobject := h.depth_le
  have hlevels := Runtime.reading_le_writing
  rw [Value.depth] at hobject
  omega

theorem ofPayloadsWithin?_of_isReadable {payloads : List Members}
    (h : ∀ payload ∈ payloads, IsReadable (.object payload)) (fields : List CodeString) :
    RecordList.ofPayloadsWithin? Runtime.writingLevels payloads fields =
      some (RecordList.ofPayloads payloads fields) := by
  have hrecords : payloads.mapM (fun payload =>
      Record.ofPayloadWithin? Runtime.writingLevels payload fields) =
        some (payloads.map fun payload => Record.ofPayload payload fields) := by
    induction payloads with
    | nil => rfl
    | cons payload payloads ih =>
        rw [List.forall_mem_cons] at h
        rw [List.mapM_cons, h.1.ofPayloadWithin?, ih h.2]
        rfl
  rw [RecordList.ofPayloadsWithin?, hrecords]
  rfl

namespace Client

variable {response : Http.Response}

theorem isReadable_of_payload {operation : String} {fields : Members}
    (h : payload operation response = .ok fields) : IsReadable (.object fields) := by
  obtain ⟨-, -, h⟩ := exists_of_bind_eq_ok h
  obtain ⟨value, hdocument, h⟩ := exists_of_bind_eq_ok h
  have hvalue : IsReadable value := by
    unfold document at hdocument
    split at hdocument
    · next hread =>
        cases hdocument
        exact Json.fits_of_readBytes hread
    · cases hdocument
    · cases hdocument
  split at h
  · next hfields =>
      cases h
      rwa [fields?_eq_some_iff.mp hfields] at hvalue
  · cases h

theorem lt_of_readCount {count : Nat} (h : readCount response = .ok count) :
    count < 10 ^ Json.Token.maxDigits := by
  obtain ⟨fields, hfields, h⟩ := exists_of_bind_eq_ok h
  split at h
  · cases h
  · next value hvalue =>
      split at h
      · next hcount =>
          cases h
          exact Count.lt_of_ofValue hcount
            ((isReadable_of_payload hfields).get? hvalue).admitted.self
      · cases h

theorem isReadable_of_readRecord {fields : Members}
    (h : readRecord response = .ok fields) : IsReadable (.object fields) := by
  obtain ⟨payload, hpayload, h⟩ := exists_of_bind_eq_ok h
  split at h
  · next hrecord =>
      cases h
      obtain ⟨value, hvalue, hobject⟩ := Option.bind_eq_some_iff.mp hrecord
      rw [fields?_eq_some_iff] at hobject
      subst hobject
      exact (isReadable_of_payload hpayload).get? hvalue
  · cases h

theorem isReadable_of_objects {items : List Value} {index : Nat} {records : List Members}
    (h : objects index items = .ok records) (hitems : ∀ item ∈ items, IsReadable item) :
    ∀ fields ∈ records, IsReadable (.object fields) := by
  rcases items_cases items with ⟨others, rfl⟩ | ⟨before, item, after, rfl, hitem⟩
  · rw [objects_map_object] at h
    cases h
    exact fun fields hfields => hitems _ (List.mem_map_of_mem hfields)
  · rw [objects_append_cons before hitem] at h
    cases h

theorem isReadable_of_readRecords {records : List Members}
    (h : readRecords response = .ok records) :
    ∀ fields ∈ records, IsReadable (.object fields) := by
  obtain ⟨payload, hpayload, h⟩ := exists_of_bind_eq_ok h
  split at h
  · cases h
  · next hitems =>
      obtain ⟨value, hvalue, harray⟩ := Option.bind_eq_some_iff.mp hitems
      rw [items?_eq_some_iff] at harray
      subst harray
      have hreadable := (isReadable_of_payload hpayload).get? hvalue
      split at h
      · next hrecords =>
          cases h
          exact isReadable_of_objects hrecords fun item hitem => hreadable.item hitem
      · cases h

end Client

end Service

end QueryBridge
