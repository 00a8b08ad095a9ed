import QueryBridge.Proofs.Http.Redirect
import QueryBridge.Proofs.Service.Call
import QueryBridge.Proofs.Service.Request

/-!
# Calls that settle

A call settles if it returns something or fails with an error that is reported.  Faults are
reported, and so is what is wrong with a response, unless its body nests too deeply.  A request
that cannot be made and a location that leads astray are not reported either.
-/

namespace QueryBridge.Service

open QueryBridge.Bridge (Failure)

variable {α β : Type}

/-! ## Outcomes -/

/-- The outcome is a value, or an error that is reported. -/
def IsSettled (outcome : Except Failure α) : Prop :=
  (∃ value, outcome = .ok value) ∨ ∃ error, outcome = .error (.reported error)

@[simp] theorem isSettled_ok (value : α) : IsSettled (.ok value : Except Failure α) :=
  Or.inl ⟨value, rfl⟩

@[simp] theorem isSettled_reported (error : Bridge.Error) :
    IsSettled (.error (.reported error) : Except Failure α) :=
  Or.inr ⟨error, rfl⟩

@[simp] theorem isSettled_error_iff {failure : Failure} :
    IsSettled (.error failure : Except Failure α) ↔ ∃ error, failure = .reported error := by
  simp [IsSettled]

instance (outcome : Except Failure α) : Decidable (IsSettled outcome) :=
  match outcome with
  | .ok value => .isTrue (isSettled_ok value)
  | .error (.reported error) => .isTrue (isSettled_reported error)
  | .error (.invalidUrl _) => .isFalse (by simp)
  | .error .headerEncoding => .isFalse (by simp)
  | .error .noAttempts => .isFalse (by simp)
  | .error .tooDeep => .isFalse (by simp)

/-- A result settles if what failed before does, and what is read from a value. -/
theorem isSettled_bind_iff {outcome : Except Failure α} {read : α → Except Failure β} :
    IsSettled (outcome.bind read) ↔
      IsSettled outcome ∧ ∀ value, outcome = .ok value → IsSettled (read value) := by
  cases outcome with
  | error failure => simp [Except.bind]
  | ok value => simp [Except.bind]

theorem isSettled_map_iff {outcome : Except Failure α} (f : α → β) :
    IsSettled (outcome.map f) ↔ IsSettled outcome := by
  cases outcome with
  | error failure => simp [Except.map]
  | ok value => simp [Except.map]

/-- The outcome is settled, or what was received nests too deeply to be read. -/
def IsEnded (outcome : Except Failure α) : Prop :=
  IsSettled outcome ∨ outcome = .error .tooDeep

theorem IsSettled.isEnded {outcome : Except Failure α} (h : IsSettled outcome) :
    IsEnded outcome :=
  Or.inl h

instance (outcome : Except Failure α) : Decidable (IsEnded outcome) :=
  match outcome with
  | .ok value => .isTrue (isSettled_ok value).isEnded
  | .error (.reported error) => .isTrue (isSettled_reported error).isEnded
  | .error .tooDeep => .isTrue (Or.inr rfl)
  | .error (.invalidUrl _) => .isFalse (by simp [IsEnded])
  | .error .headerEncoding => .isFalse (by simp [IsEnded])
  | .error .noAttempts => .isFalse (by simp [IsEnded])

theorem isEnded_bind_iff {outcome : Except Failure α} {read : α → Except Failure β}
    (h : ∀ value, IsEnded (read value)) : IsEnded (outcome.bind read) ↔ IsEnded outcome := by
  cases outcome with
  | error failure => simp [IsEnded, Except.bind]
  | ok value => exact iff_of_true (h value) (isSettled_ok value).isEnded

/-! ## Responses -/

namespace Client

theorem isSettled_checkStatus (response : Http.Response) : IsSettled (checkStatus response) := by
  unfold checkStatus
  split
  · simp
  · split <;> simp

theorem checkStatus_of_lt {response : Http.Response} (h : response.status < 400) :
    checkStatus response = .ok () := by
  unfold checkStatus
  rw [if_neg (by omega), if_neg (by omega)]

theorem lt_of_checkStatus {response : Http.Response} (h : checkStatus response = .ok ()) :
    response.status < 400 := by
  unfold checkStatus at h
  split at h
  · cases h
  · split at h
    · cases h
    · omega

end Client

section

variable [Runtime]

/-- The body nests too many arrays and objects. -/
def IsTooDeep (body : List UInt8) : Prop :=
  Json.readBytes Runtime.readingLevels body = .error .tooDeep

instance (body : List UInt8) : Decidable (IsTooDeep body) :=
  match h : Json.readBytes Runtime.readingLevels body with
  | .error .tooDeep => .isTrue h
  | .error .malformed => .isFalse (by simp [IsTooDeep, h])
  | .ok _ => .isFalse (by simp [IsTooDeep, h])

/-- The body of the response is read, and it nests too many arrays and objects. -/
def Overflows (response : Http.Response) : Prop :=
  response.status < 400 ∧ IsTooDeep response.body

instance (response : Http.Response) : Decidable (Overflows response) :=
  inferInstanceAs (Decidable (_ ∧ _))

/-- What is read in the response settles, unless the body nests too deeply. -/
structure SettlesUnlessDeep (response : Http.Response) (outcome : Except Failure α) : Prop where
  tooDeep : Overflows response → outcome = .error .tooDeep
  settled : ¬ Overflows response → IsSettled outcome

theorem SettlesUnlessDeep.isSettled_iff {response : Http.Response} {outcome : Except Failure α}
    (h : SettlesUnlessDeep response outcome) : IsSettled outcome ↔ ¬ Overflows response := by
  refine ⟨fun hsettled hdeep => ?_, h.settled⟩
  rw [h.tooDeep hdeep] at hsettled
  simp at hsettled

theorem SettlesUnlessDeep.isEnded {response : Http.Response} {outcome : Except Failure α}
    (h : SettlesUnlessDeep response outcome) : IsEnded outcome := by
  by_cases hdeep : Overflows response
  · exact Or.inr (h.tooDeep hdeep)
  · exact (h.settled hdeep).isEnded

theorem SettlesUnlessDeep.map {response : Http.Response} {outcome : Except Failure α}
    (h : SettlesUnlessDeep response outcome) (f : α → β) :
    SettlesUnlessDeep response (outcome.map f) where
  tooDeep hdeep := by
    rw [h.tooDeep hdeep]
    rfl
  settled hshallow := (isSettled_map_iff f).mpr (h.settled hshallow)

namespace Client

theorem settlesUnlessDeep_payload (operation : String) (response : Http.Response) :
    SettlesUnlessDeep response (payload operation response) where
  tooDeep := by
    rintro ⟨hstatus, hdeep⟩
    unfold payload document
    rw [checkStatus_of_lt hstatus, hdeep]
    rfl
  settled hshallow := by
    refine isSettled_bind_iff.mpr ⟨isSettled_checkStatus response, fun checked hchecked => ?_⟩
    refine isSettled_bind_iff.mpr ⟨?_, fun value _ => ?_⟩
    · unfold document
      split
      · exact isSettled_ok _
      · exact isSettled_reported _
      · next hdeep => exact absurd ⟨lt_of_checkStatus hchecked, hdeep⟩ hshallow
    · split
      · exact isSettled_ok _
      · exact isSettled_reported _

/-- What is looked for among the members is reported if it is missing. -/
theorem settlesUnlessDeep_payload_bind {next : Json.Members → Except Failure α}
    (h : ∀ fields, IsSettled (next fields)) (operation : String) (response : Http.Response) :
    SettlesUnlessDeep response ((payload operation response).bind next) where
  tooDeep hdeep := by
    rw [(settlesUnlessDeep_payload operation response).tooDeep hdeep]
    rfl
  settled hshallow := isSettled_bind_iff.mpr
    ⟨(settlesUnlessDeep_payload operation response).settled hshallow, fun fields _ => h fields⟩

theorem settlesUnlessDeep_readCount (response : Http.Response) :
    SettlesUnlessDeep response (readCount response) := by
  refine settlesUnlessDeep_payload_bind (fun fields => ?_) "count" response
  unfold format
  split
  · exact isSettled_reported _
  · split
    · exact isSettled_ok _
    · exact isSettled_reported _

theorem settlesUnlessDeep_readRecord (response : Http.Response) :
    SettlesUnlessDeep response (readRecord response) := by
  refine settlesUnlessDeep_payload_bind (fun fields => ?_) "retrieve" response
  unfold format
  split
  · exact isSettled_ok _
  · exact isSettled_reported _

theorem settlesUnlessDeep_readRecords (response : Http.Response) :
    SettlesUnlessDeep response (readRecords response) := by
  refine settlesUnlessDeep_payload_bind (fun fields => ?_) "search" response
  unfold format
  split
  · exact isSettled_reported _
  · split
    · exact isSettled_ok _
    · exact isSettled_reported _

end Client

end

namespace Client

/-! ## Requests -/

/-- The client can make a request for the resource. -/
def CanSend (client : Client) (resource : String) : Prop :=
  ∃ sent, client.request resource = .ok sent

instance (client : Client) (resource : String) : Decidable (client.CanSend resource) :=
  match h : client.request resource with
  | .ok sent => .isTrue ⟨sent, h⟩
  | .error _ => .isFalse (by simp [CanSend, h])

/-- A request that cannot be made has no valid URL, or headers that cannot be sent. -/
theorem request_error_cases {client : Client} {resource : String} {failure : Http.Failure}
    (h : client.request resource = .error failure) :
    (∃ error, failure = .invalidUrl error) ∨
      failure = .headerEncoding ∧ Http.Headers.areEncodable client.headers = false := by
  simp only [Client.request, bind, Except.bind, Except.mapError] at h
  cases hroot : Url.parse client.baseUrl.toList with
  | error error =>
      simp only [hroot] at h
      cases h
      exact Or.inl ⟨error, rfl⟩
  | ok root =>
      cases hbase : root.toBase with
      | error error =>
          simp only [hroot, hbase] at h
          cases h
          exact Or.inl ⟨error, rfl⟩
      | ok base =>
          simp only [hroot, hbase] at h
          split at h
          next hencodable =>
            cases h
            exact Or.inr ⟨rfl, by simpa using hencodable⟩
          next =>
            cases hurl : base.below resource.toList with
            | error error =>
                simp only [hurl] at h
                cases h
                exact Or.inl ⟨error, rfl⟩
            | ok url =>
                simp only [hurl] at h
                cases h

/-- A client that can request one path fails to request another by the text of that path. -/
theorem liesIn_of_request {client : Client} {first resource : String}
    (hsend : client.CanSend first) (hfirst : Url.IsRooted first.toList)
    (hresource : Url.IsRooted resource.toList) {failure : Http.Failure}
    (h : client.request resource = .error failure) :
    ∃ error, failure = .invalidUrl error ∧ error.LiesIn resource.toList := by
  obtain ⟨sent, hsent⟩ := hsend
  obtain ⟨root, base, hroot, hbase, hencodable, hurl, -⟩ := request_cases hsent
  simp only [Client.request, bind, Except.bind, Except.mapError, hroot, hbase, hencodable,
    Bool.not_true, Bool.false_eq_true, if_false] at h
  cases hbelow : base.below resource.toList with
  | error error =>
      simp only [hbelow] at h
      cases h
      exact ⟨error, rfl, Url.liesIn_of_below hurl hfirst hresource hbelow⟩
  | ok url =>
      simp only [hbelow] at h
      cases h

/-! ## Calls -/

/-- A request that cannot be made ends the call with what is wrong with it. -/
theorem outcome_fetch_of_not_canSend {client : Client} {resource : String}
    (h : ¬ client.CanSend resource) (journal : Journal) (replies : List Http.Reply) :
    let call := client.fetch journal resource replies
    (∃ error, call.outcome = .error (.invalidUrl error)) ∨
      call.outcome = .error .headerEncoding ∧
        Http.Headers.areEncodable client.headers = false := by
  cases hrequest : client.request resource with
  | ok request => exact absurd ⟨request, hrequest⟩ h
  | error failure =>
      unfold fetch
      rw [hrequest]
      rcases request_error_cases hrequest with ⟨error, rfl⟩ | ⟨rfl, hencodable⟩
      · exact Or.inl ⟨error, rfl⟩
      · exact Or.inr ⟨rfl, hencodable⟩

/-- A request that was made ends the call as the exchange ends; faults are reported. -/
theorem outcome_fetch_of_ok {client : Client} {resource : String} {request : Http.Request}
    (h : client.request resource = .ok request) (journal : Journal) (replies : List Http.Reply) :
    (client.fetch journal resource replies).outcome =
      match (Http.exchange request client.attempts replies).outcome with
      | .ok response => .ok response
      | .error (.fault _) => .error (.reported .noConnection)
      | .error (.invalidUrl error) => .error (.invalidUrl error)
      | .error .headerEncoding => .error .headerEncoding := by
  unfold fetch
  rw [h]
  dsimp only
  cases (Http.exchange request client.attempts replies).outcome with
  | ok response => rfl
  | error failure => cases failure <;> rfl

theorem requests_fetch_of_ok {client : Client} {resource : String} {request : Http.Request}
    (h : client.request resource = .ok request) (journal : Journal) (replies : List Http.Reply) :
    (client.fetch journal resource replies).requests =
      (Http.exchange request client.attempts replies).attempts.flatMap Http.Attempt.requests := by
  unfold Call.requests
  rw [attempts_fetch, h]

/-- A call that has ended is settled, as nothing in the response is read yet. -/
theorem isSettled_fetch_of_isEnded {client : Client} {journal : Journal} {resource : String}
    {replies : List Http.Reply} (h : IsEnded (client.fetch journal resource replies).outcome) :
    IsSettled (client.fetch journal resource replies).outcome := by
  refine h.resolve_right fun hdeep => ?_
  cases hrequest : client.request resource with
  | error failure =>
      unfold fetch at hdeep
      rw [hrequest] at hdeep
      cases failure <;> cases hdeep
  | ok request =>
      rw [outcome_fetch_of_ok hrequest] at hdeep
      split at hdeep <;> cases hdeep

/-- If the request can be made, only a location that leads astray keeps a call from settling. -/
theorem outcome_fetch_of_canSend {client : Client} {resource : String}
    (h : client.CanSend resource) (journal : Journal) {replies : List Http.Reply}
    (hreplies : ∀ reply ∈ replies, reply.isReadable) :
    let call := client.fetch journal resource replies
    (IsSettled call.outcome ∧ ∀ error, ¬ Http.EndsAstray call.requests replies error) ∨
    ∃ error, call.outcome = .error (.invalidUrl error) ∧
      Http.EndsAstray call.requests replies error := by
  obtain ⟨request, hrequest⟩ := h
  dsimp only
  rw [outcome_fetch_of_ok hrequest, requests_fetch_of_ok hrequest]
  obtain ⟨hheader, hastray⟩ := Http.outcome_exchange hreplies request client.attempts
  simp only [← hastray]
  cases houtcome : (Http.exchange request client.attempts replies).outcome with
  | ok response => exact Or.inl ⟨isSettled_ok _, by simp⟩
  | error failure =>
      cases failure with
      | fault fault => exact Or.inl ⟨isSettled_reported _, by simp⟩
      | invalidUrl error => exact Or.inr ⟨error, rfl, rfl⟩
      | headerEncoding => exact absurd houtcome hheader

/-- A call settles exactly if its request can be made and no location leads astray. -/
theorem isSettled_fetch_iff (client : Client) (journal : Journal) (resource : String)
    {replies : List Http.Reply} (hreplies : ∀ reply ∈ replies, reply.isReadable) :
    IsSettled (client.fetch journal resource replies).outcome ↔
      client.CanSend resource ∧ ∀ error,
        ¬ Http.EndsAstray (client.fetch journal resource replies).requests replies error := by
  by_cases hsend : client.CanSend resource
  · rcases outcome_fetch_of_canSend hsend journal hreplies with
      ⟨hsettled, hastray⟩ | ⟨error, houtcome, hastray⟩
    · exact iff_of_true hsettled ⟨hsend, hastray⟩
    · refine iff_of_false ?_ fun hboth => hboth.2 error hastray
      rw [houtcome]
      simp
  · refine iff_of_false ?_ fun hboth => hsend hboth.1
    rcases outcome_fetch_of_not_canSend hsend journal replies with
      ⟨error, houtcome⟩ | ⟨houtcome, -⟩
    · rw [houtcome]
      simp
    · rw [houtcome]
      simp

/-- A call that does not settle fails with an invalid URL, or with headers that cannot be
sent. -/
theorem outcome_fetch_of_not_isSettled {client : Client} {journal : Journal} {resource : String}
    {replies : List Http.Reply} (hreplies : ∀ reply ∈ replies, reply.isReadable)
    (h : ¬ IsSettled (client.fetch journal resource replies).outcome) :
    (∃ error, (client.fetch journal resource replies).outcome = .error (.invalidUrl error)) ∨
      (client.fetch journal resource replies).outcome = .error .headerEncoding ∧
        Http.Headers.areEncodable client.headers = false := by
  by_cases hsend : client.CanSend resource
  · rcases outcome_fetch_of_canSend hsend journal hreplies with
      ⟨hsettled, -⟩ | ⟨error, houtcome, -⟩
    · exact absurd hsettled h
    · exact Or.inl ⟨error, houtcome⟩
  · exact outcome_fetch_of_not_canSend hsend journal replies

/-- With a client that has requested one path, a call for another one does not settle only if
that path has a bad text or a location leads astray. -/
theorem outcome_fetch_of_canSend_other {client : Client} {journal : Journal}
    {first resource : String} {replies : List Http.Reply} (hsend : client.CanSend first)
    (hfirst : Url.IsRooted first.toList) (hresource : Url.IsRooted resource.toList)
    (hreplies : ∀ reply ∈ replies, reply.isReadable)
    (h : ¬ IsSettled (client.fetch journal resource replies).outcome) :
    ∃ error, (client.fetch journal resource replies).outcome = .error (.invalidUrl error) ∧
      (Http.EndsAstray (client.fetch journal resource replies).requests replies error ∨
        error.LiesIn resource.toList) := by
  cases hrequest : client.request resource with
  | error failure =>
      obtain ⟨error, rfl, hlies⟩ := liesIn_of_request hsend hfirst hresource hrequest
      refine ⟨error, ?_, Or.inr hlies⟩
      unfold fetch
      rw [hrequest]
  | ok request =>
      rcases outcome_fetch_of_canSend ⟨request, hrequest⟩ journal hreplies with
        ⟨hsettled, -⟩ | ⟨error, houtcome, hastray⟩
      · exact absurd hsettled h
      · exact ⟨error, houtcome, Or.inl hastray⟩

end Client

end QueryBridge.Service
