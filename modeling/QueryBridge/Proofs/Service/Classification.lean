import QueryBridge.Proofs.Service.Settlement

/-!
# How responses are classified

The status comes first: a refusal of the credentials, then every other error of the service,
whatever the body says.  Below 400 the body decides.  It holds what the operation expects, and the
operation returns something; or it nests too deeply to be read; or else the format is wrong.
-/

namespace QueryBridge.Service

open QueryBridge.Bridge (Failure)

variable {α β : Type}

/-! ## Objects and arrays -/

theorem fields?_eq_some_iff {value : Json.Value} {fields : Json.Members} :
    value.fields? = some fields ↔ value = .object fields := by
  cases value <;> simp [Json.Value.fields?]

theorem items?_eq_some_iff {value : Json.Value} {items : List Json.Value} :
    value.items? = some items ↔ value = .array items := by
  cases value <;> simp [Json.Value.items?]

namespace Client

/-- The items are objects, or there is a first one that is none. -/
theorem items_cases (items : List Json.Value) :
    (∃ records : List (Json.Members), items = records.map .object) ∨
      ∃ (before : List (Json.Members)) (item : Json.Value) (after : List Json.Value),
        items = before.map .object ++ item :: after ∧ item.fields? = none := by
  induction items with
  | nil => exact Or.inl ⟨[], rfl⟩
  | cons item items ih =>
      cases hfields : item.fields? with
      | none => exact Or.inr ⟨[], item, items, rfl, hfields⟩
      | some fields =>
          rw [fields?_eq_some_iff] at hfields
          subst hfields
          rcases ih with ⟨records, rfl⟩ | ⟨before, other, after, rfl, hother⟩
          · exact Or.inl ⟨fields :: records, rfl⟩
          · exact Or.inr ⟨fields :: before, other, after, rfl, hother⟩

/-- The fields of objects are read in the order of the objects. -/
theorem objects_map_object (records : List (Json.Members)) (index : Nat) :
    objects index (records.map .object) = .ok records := by
  induction records generalizing index with
  | nil => rfl
  | cons fields records ih =>
      rw [List.map_cons, objects]
      simp only [Json.Value.fields?, ih]
      rfl

/-- Reading stops at the first item that is no object. -/
theorem objects_append_cons (before : List (Json.Members)) {item : Json.Value}
    (hitem : item.fields? = none) (after : List Json.Value) (index : Nat) :
    objects index (before.map .object ++ item :: after) = .error (index + before.length) := by
  induction before generalizing index with
  | nil =>
      rw [List.map_nil, List.nil_append, objects, hitem]
      rfl
  | cons fields before ih =>
      have hlength : index + 1 + before.length = index + (fields :: before).length := by
        rw [List.length_cons]
        omega
      rw [List.map_cons, List.cons_append, objects]
      simp only [Json.Value.fields?, ih, hlength]
      rfl

end Client

variable [Runtime]

/-! ## Bodies -/

/-- The body is a JSON document, an object with these fields. -/
def HasFields (body : List UInt8) (fields : Json.Members) : Prop :=
  Json.readBytes Runtime.readingLevels body = .ok (.object fields)

def HoldsCount (body : List UInt8) : Prop :=
  ∃ fields value count, HasFields body fields ∧ Fields.get? fields "count" = some value ∧
    Count.ofValue value = .ok count

def HoldsRecord (body : List UInt8) : Prop :=
  ∃ fields record, HasFields body fields ∧ Fields.get? fields "record" = some (.object record)

def HoldsRecords (body : List UInt8) : Prop :=
  ∃ fields items, HasFields body fields ∧ Fields.get? fields "records" = some (.array items) ∧
    ∀ item ∈ items, ∃ record, item = .object record

theorem HasFields.unique {body : List UInt8} {first second : Json.Members}
    (h : HasFields body first) (h' : HasFields body second) : first = second := by
  have hvalue := h.symm.trans h'
  cases hvalue
  rfl

/-! ## Classes -/

/-- What becomes of a response, given what its body has to be. -/
structure IsClassified (response : Http.Response) (expected : Prop)
    (outcome : Except Failure α) : Prop where
  rejected : response.status = 401 → outcome = .error (.reported .rejected)
  service : 400 ≤ response.status → response.status ≠ 401 →
    outcome = .error (.reported (.service response.status response.url.decodedPath))
  value : response.status < 400 → expected → ∃ value, outcome = .ok value
  tooDeep : response.status < 400 → IsTooDeep response.body → outcome = .error .tooDeep
  format : response.status < 400 → ¬ expected → ¬ IsTooDeep response.body →
    ∃ error, outcome = .error (.reported (.format error))

theorem IsClassified.map {response : Http.Response} {expected : Prop}
    {outcome : Except Failure α} (h : IsClassified response expected outcome) (f : α → β) :
    IsClassified response expected (outcome.map f) := by
  constructor
  · intro hstatus
    rw [h.rejected hstatus]
    rfl
  · intro hstatus hother
    rw [h.service hstatus hother]
    rfl
  · intro hstatus hexpected
    obtain ⟨value, heq⟩ := h.value hstatus hexpected
    exact ⟨f value, by rw [heq]; rfl⟩
  · intro hstatus hdeep
    rw [h.tooDeep hstatus hdeep]
    rfl
  · intro hstatus hexpected hshallow
    obtain ⟨error, heq⟩ := h.format hstatus hexpected hshallow
    exact ⟨error, by rw [heq]; rfl⟩

/-- A classified response is no missing connection. -/
theorem IsClassified.ne_noConnection {response : Http.Response} {expected : Prop}
    {outcome : Except Failure α} (h : IsClassified response expected outcome) :
    outcome ≠ .error (.reported .noConnection) := by
  by_cases hstatus : response.status < 400
  · by_cases hexpected : expected
    · obtain ⟨value, heq⟩ := h.value hstatus hexpected
      simp [heq]
    · by_cases hdeep : IsTooDeep response.body
      · simp [h.tooDeep hstatus hdeep]
      · obtain ⟨error, heq⟩ := h.format hstatus hexpected hdeep
        simp [heq]
  · by_cases hrefused : response.status = 401
    · simp [h.rejected hrefused]
    · simp [h.service (by omega) hrefused]

namespace Client

/-! ## Reading -/

/-- The document of a body is an object, or it nests too deeply, or the format is wrong. -/
theorem payload_of_lt {response : Http.Response} (h : response.status < 400)
    (operation : String) :
    (∃ fields, HasFields response.body fields ∧ payload operation response = .ok fields) ∨
      (∀ fields, ¬ HasFields response.body fields) ∧
        (¬ IsTooDeep response.body →
          ∃ error, payload operation response = .error (.reported (.format error))) := by
  simp only [payload, checkStatus_of_lt h, bind, Except.bind, document, HasFields, IsTooDeep]
  cases Json.readBytes Runtime.readingLevels response.body with
  | error error =>
      refine Or.inr ⟨by simp, fun hshallow => ?_⟩
      cases error with
      | malformed => exact ⟨_, rfl⟩
      | tooDeep => exact absurd rfl hshallow
  | ok value =>
      dsimp only
      cases hfields : value.fields? with
      | none =>
          refine Or.inr ⟨fun fields heq => ?_, fun _ => ⟨_, rfl⟩⟩
          cases heq
          cases hfields
      | some fields =>
          exact Or.inl ⟨fields, congrArg Except.ok (fields?_eq_some_iff.mp hfields), rfl⟩

/-- The class of a response whose fields are read further. -/
theorem isClassified_payload_bind {response : Http.Response} {expected : Prop}
    {operation : String} {next : Json.Members → Except Failure α}
    (hfields : expected → ∃ fields, HasFields response.body fields)
    (hvalue : ∀ fields, HasFields response.body fields → expected →
      ∃ value, next fields = .ok value)
    (hformat : ∀ fields, HasFields response.body fields → ¬ expected →
      ∃ error, next fields = .error (.reported (.format error))) :
    IsClassified response expected ((payload operation response).bind next) := by
  constructor
  · intro hstatus
    simp [payload, checkStatus, hstatus, bind, Except.bind]
  · intro hstatus hother
    simp [payload, checkStatus, hstatus, hother, bind, Except.bind]
  · intro hstatus hexpected
    rcases payload_of_lt hstatus operation with ⟨fields, hbody, heq⟩ | ⟨hnone, -⟩
    · rw [heq]
      exact hvalue fields hbody hexpected
    · obtain ⟨fields, hbody⟩ := hfields hexpected
      exact absurd hbody (hnone fields)
  · intro hstatus hdeep
    rw [(settlesUnlessDeep_payload operation response).tooDeep ⟨hstatus, hdeep⟩]
    rfl
  · intro hstatus hexpected hshallow
    rcases payload_of_lt hstatus operation with ⟨fields, hbody, heq⟩ | ⟨-, hformat⟩
    · rw [heq]
      exact hformat fields hbody hexpected
    · obtain ⟨error, heq⟩ := hformat hshallow
      rw [heq]
      exact ⟨error, rfl⟩

theorem isClassified_readCount (response : Http.Response) :
    IsClassified response (HoldsCount response.body) (readCount response) := by
  refine isClassified_payload_bind ?_ ?_ ?_
  · rintro ⟨fields, -, -, hfields, -⟩
    exact ⟨fields, hfields⟩
  · rintro fields hfields ⟨others, value, count, hothers, hvalue, hcount⟩
    obtain rfl := hothers.unique hfields
    rw [hvalue]
    dsimp only
    rw [hcount]
    exact ⟨count, rfl⟩
  · intro fields hfields hnone
    cases hvalue : Fields.get? fields "count" with
    | none => exact ⟨_, rfl⟩
    | some value =>
        dsimp only
        cases hcount : Count.ofValue value with
        | error error => exact ⟨_, rfl⟩
        | ok count => exact absurd ⟨fields, value, count, hfields, hvalue, hcount⟩ hnone

theorem isClassified_readRecord (response : Http.Response) :
    IsClassified response (HoldsRecord response.body) (readRecord response) := by
  refine isClassified_payload_bind ?_ ?_ ?_
  · rintro ⟨fields, -, hfields, -⟩
    exact ⟨fields, hfields⟩
  · rintro fields hfields ⟨others, record, hothers, hrecord⟩
    obtain rfl := hothers.unique hfields
    rw [hrecord]
    exact ⟨record, rfl⟩
  · intro fields hfields hnone
    cases hrecord : (Fields.get? fields "record").bind Json.Value.fields? with
    | none => exact ⟨_, rfl⟩
    | some record =>
        obtain ⟨value, hvalue, hobject⟩ := Option.bind_eq_some_iff.mp hrecord
        rw [fields?_eq_some_iff] at hobject
        subst hobject
        exact absurd ⟨fields, record, hfields, hvalue⟩ hnone

theorem isClassified_readRecords (response : Http.Response) :
    IsClassified response (HoldsRecords response.body) (readRecords response) := by
  refine isClassified_payload_bind ?_ ?_ ?_
  · rintro ⟨fields, -, hfields, -⟩
    exact ⟨fields, hfields⟩
  · rintro fields hfields ⟨others, items, hothers, hitems, hall⟩
    obtain rfl := hothers.unique hfields
    rw [hitems]
    rcases items_cases items with ⟨records, rfl⟩ | ⟨before, item, after, rfl, hitem⟩
    · simp only [Option.bind, Json.Value.items?, objects_map_object]
      exact ⟨records, rfl⟩
    · obtain ⟨record, rfl⟩ := hall item (List.mem_append_right _ List.mem_cons_self)
      cases hitem
  · intro fields hfields hnone
    cases hitems : (Fields.get? fields "records").bind Json.Value.items? with
    | none => exact ⟨_, rfl⟩
    | some items =>
        obtain ⟨value, hvalue, harray⟩ := Option.bind_eq_some_iff.mp hitems
        rw [items?_eq_some_iff] at harray
        subst harray
        dsimp only
        rcases items_cases items with ⟨records, rfl⟩ | ⟨before, item, after, rfl, hitem⟩
        · refine absurd ⟨fields, _, hfields, hvalue, fun item hitem => ?_⟩ hnone
          obtain ⟨record, -, rfl⟩ := List.mem_map.mp hitem
          exact ⟨record, rfl⟩
        · rw [objects_append_cons before hitem]
          exact ⟨_, rfl⟩

/-! ## What is read below 400 -/

theorem payload_eq_ok {response : Http.Response} (hstatus : response.status < 400)
    {fields : Json.Members} (hbody : HasFields response.body fields) (operation : String) :
    payload operation response = .ok fields := by
  rcases payload_of_lt hstatus operation with ⟨others, hothers, heq⟩ | ⟨hnone, -⟩
  · rw [heq, hothers.unique hbody]
  · exact absurd hbody (hnone fields)

theorem readCount_eq {response : Http.Response} (hstatus : response.status < 400)
    {fields : Json.Members} (hbody : HasFields response.body fields) {value : Json.Value}
    (hvalue : Fields.get? fields "count" = some value) :
    readCount response =
      (Count.ofValue value).mapError fun error => .reported (.format (.count error)) := by
  unfold readCount
  rw [payload_eq_ok hstatus hbody]
  simp only [bind, Except.bind, hvalue]
  cases Count.ofValue value with
  | error error => rfl
  | ok count => rfl

theorem readRecords_eq {response : Http.Response} (hstatus : response.status < 400)
    {fields : Json.Members} (hbody : HasFields response.body fields)
    {items : List Json.Value} (hitems : Fields.get? fields "records" = some (.array items)) :
    readRecords response =
      (objects 0 items).mapError fun index => .reported (.format (.recordNotObject index)) := by
  unfold readRecords
  rw [payload_eq_ok hstatus hbody]
  simp only [bind, Except.bind, hitems, Option.bind, Json.Value.items?]
  cases objects 0 items with
  | error index => rfl
  | ok records => rfl

end Client

end QueryBridge.Service
