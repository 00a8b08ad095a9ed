import QueryBridge.Proofs.Fields
import QueryBridge.Proofs.Service.Concealment
import QueryBridge.Proofs.Service.Retry

/-!
# The trace of a call

However often a call retries its request, and whatever redirects it follows, it makes one record
of the request and then, if it settles, one of how the last attempt ended.  That record is an
error if the attempt ended in a fault, and no other record is.
-/

namespace QueryBridge

namespace Log

/-! ## Records of an exchange -/

namespace Record

/-- The record is of a request, or of how the attempts at one ended. -/
def IsOfExchange (record : Record) : Prop :=
  record.message ∈
    (["HTTP request", "HTTP response", "HTTP transport failure"] : List CodeString)

def IsError (record : Record) : Prop :=
  record.level = Level.error

instance : DecidablePred IsOfExchange := fun record =>
  inferInstanceAs (Decidable (record.message ∈ ([_, _, _] : List CodeString)))

instance : DecidablePred IsError := fun record =>
  inferInstanceAs (Decidable (record.level = Level.error))

/-- The record tells how an attempt ended, in texts that went through the mask: it has the status
of the response, or it is an error that names the fault. -/
def Tells (mask : CodeString → CodeString) (record : Record) :
    Except Http.Failure Http.Response → Prop
  | .ok response =>
      record.message = mask "HTTP response" ∧ record.level = Level.debug ∧
        Fields.get? record.extras "status_code" = some (.int response.status)
  | .error (.fault fault) =>
      record.message = mask "HTTP transport failure" ∧ record.level = Level.error ∧
        Fields.get? record.extras "error" = some (.ofString (mask fault.text))
  | .error _ => False

/-- The record says nothing about an exchange, and is no error. -/
def IsAside (record : Record) : Prop :=
  ¬ record.IsOfExchange ∧ ¬ record.IsError

variable {record : Record} {ended : Except Http.Failure Http.Response}

/-! ### What a record tells -/

/-- A record tells of a response or of a fault. -/
theorem Tells.cases {mask : CodeString → CodeString} (h : record.Tells mask ended) :
    (∃ response, ended = .ok response ∧ record.message = mask "HTTP response" ∧
      record.level = Level.debug ∧
      Fields.get? record.extras "status_code" = some (.int response.status)) ∨
    ∃ fault, ended = .error (.fault fault) ∧ record.message = mask "HTTP transport failure" ∧
      record.level = Level.error ∧
      Fields.get? record.extras "error" = some (.ofString (mask fault.text)) := by
  cases ended with
  | ok response => exact Or.inl ⟨response, rfl, h⟩
  | error failure =>
      cases failure with
      | fault fault => exact Or.inr ⟨fault, rfl, h⟩
      | invalidUrl error => exact h.elim
      | headerEncoding => exact h.elim

/-- A masked record tells the same, but for the secrets in its texts. -/
theorem Tells.redact (h : record.Tells id ended) (redactor : Redactor) :
    (record.redact redactor).Tells redactor.redact ended := by
  rcases h.cases with
    ⟨response, rfl, hmessage, hlevel, hstatus⟩ | ⟨fault, rfl, hmessage, hlevel, herror⟩
  · exact ⟨congrArg redactor.redact hmessage, hlevel,
      get?_extras_redact (by decide) hstatus redactor⟩
  · exact ⟨congrArg redactor.redact hmessage, hlevel,
      get?_extras_redact (by decide) herror redactor⟩

theorem filter_isError_map_redact (redactor : Redactor) (records : List Record) :
    (records.map (redact redactor)).filter (fun record => record.IsError) =
      (records.filter fun record => record.IsError).map (redact redactor) := by
  rw [List.filter_map]
  rfl

/-- Only the record of a fault is an error. -/
theorem Tells.isError_iff {mask : CodeString → CodeString} (h : record.Tells mask ended) :
    record.IsError ↔ ∃ fault, ended = .error (.fault fault) := by
  unfold IsError
  rcases h.cases with ⟨response, rfl, -, hlevel, -⟩ | ⟨fault, rfl, -, hlevel, -⟩
  · simp [hlevel, Level.debug, Level.error]
  · simp [hlevel]

theorem Tells.isOfExchange (h : record.Tells id ended) : record.IsOfExchange := by
  unfold IsOfExchange
  rcases h.cases with ⟨response, -, hmessage, -⟩ | ⟨fault, -, hmessage, -⟩
  · simp [hmessage]
  · simp [hmessage]

end Record

/-! ## Traces -/

/-- Of the records, one is of a request, and one, behind it, tells how the attempts at it ended;
only the latter can be an error. -/
def IsTrace (records : List Record) (ended : Except Http.Failure Http.Response) : Prop :=
  ∃ request answer, records.filter (fun record => record.IsOfExchange) = [request, answer] ∧
    request.message = "HTTP request" ∧ answer.Tells id ended ∧
    records.filter (fun record => record.IsError) = [answer].filter fun record => record.IsError

variable {records : List Record} {record : Record} {ended : Except Http.Failure Http.Response}

theorem IsTrace.cons (h : IsTrace records ended) (haside : record.IsAside) :
    IsTrace (record :: records) ended := by
  obtain ⟨request, answer, hexchange, hrequest, hanswer, herror⟩ := h
  refine ⟨request, answer, ?_, hrequest, hanswer, ?_⟩
  · rw [List.filter_cons_of_neg (by simpa using haside.1), hexchange]
  · rw [List.filter_cons_of_neg (by simpa using haside.2), herror]

theorem IsTrace.concat (h : IsTrace records ended) (haside : record.IsAside) :
    IsTrace (records ++ [record]) ended := by
  obtain ⟨request, answer, hexchange, hrequest, hanswer, herror⟩ := h
  refine ⟨request, answer, ?_, hrequest, hanswer, ?_⟩
  · rw [List.filter_append, hexchange, List.filter_cons_of_neg (by simpa using haside.1),
      List.filter_nil, List.append_nil]
  · rw [List.filter_append, herror,
      List.filter_cons_of_neg (a := record) (by simpa using haside.2), List.filter_nil,
      List.append_nil]

theorem isTrace_pair {request answer : Record} (hmessage : request.message = "HTTP request")
    (hlevel : request.level = Level.debug) (h : answer.Tells id ended) :
    IsTrace [request, answer] ended := by
  have hrequest : request.IsOfExchange := by
    unfold Record.IsOfExchange
    rw [hmessage]
    decide
  have hquiet : ¬ request.IsError := by
    unfold Record.IsError
    rw [hlevel]
    decide
  refine ⟨request, answer, ?_, hmessage, h, ?_⟩
  · simp [hrequest, h.isOfExchange]
  · rw [List.filter_cons_of_neg (by simpa using hquiet)]

end Log

namespace Service

open QueryBridge.Bridge (Failure)
open QueryBridge.Log (IsTrace)

/-! ## Journals without a mask -/

namespace Journal

variable {journal : Journal}

theorem record_of_redactor_eq_empty (h : journal.redactor = .empty) (level : Log.Level)
    (message : String) (extras : Fields Json.Value) :
    journal.record level message extras =
      ⟨level, journal.logger, message, Fields.override journal.extras extras⟩ := by
  unfold record
  rw [h, Log.Record.redact_empty]

theorem isAside_record (h : journal.redactor = .empty) {level : Log.Level} {message : String}
    (hmessage : (message : CodeString) ∉
      (["HTTP request", "HTTP response", "HTTP transport failure"] : List CodeString))
    (hlevel : level ≠ Log.Level.error) (extras : Fields Json.Value) :
    (journal.record level message extras).IsAside := by
  rw [record_of_redactor_eq_empty h]
  exact ⟨hmessage, hlevel⟩

/-- The last extra that is added is in the record. -/
theorem get?_extras_record (h : journal.redactor = .empty) (level : Log.Level) (message : String)
    (extras : Fields Json.Value) (name : String) (value : Json.Value) :
    Fields.get? (journal.record level message (extras ++ [(name, value)])).extras name =
      some value := by
  rw [record_of_redactor_eq_empty h]
  unfold Fields.override
  rw [List.foldl_concat]
  exact Fields.get?_insert_self name value _

end Journal

/-! ## Calls -/

theorem isTrace_log {α : Type} {call : Call α} {ended : Except Http.Failure Http.Response}
    (h : IsTrace call.records ended) {record : α → Log.Record}
    (haside : ∀ value, (record value).IsAside) : IsTrace (call.log record).records ended := by
  unfold Call.log
  split
  · exact h
  · exact h.concat (haside _)

namespace Client

variable {client : Client} {journal : Journal} {resource : String} {replies : List Http.Reply}
  {request : Http.Request}

/-- A call that settles could make its request. -/
theorem canSend_of_isSettled (h : IsSettled (client.fetch journal resource replies).outcome) :
    client.CanSend resource := by
  by_contra hsend
  rcases outcome_fetch_of_not_canSend hsend journal replies with ⟨error, houtcome⟩ | ⟨houtcome, -⟩
  · rw [houtcome] at h
    simp at h
  · rw [houtcome] at h
    simp at h

/-- A call has the trace of its exchange, if that settles. -/
theorem isTrace_fetch (hjournal : journal.redactor = .empty)
    (hrequest : client.request resource = .ok request)
    (h : IsSettled (passOn (Http.exchange request client.attempts replies).outcome)) :
    IsTrace (client.fetch journal resource replies).records
      (Http.exchange request client.attempts replies).outcome := by
  have hsent := Journal.record_of_redactor_eq_empty hjournal Log.Level.debug "HTTP request"
    (methodExtras resource)
  have hmessage := congrArg Log.Record.message hsent
  have hlevel := congrArg Log.Record.level hsent
  unfold fetch
  rw [hrequest]
  dsimp only
  cases hended : (Http.exchange request client.attempts replies).outcome with
  | ok response =>
      refine Log.isTrace_pair hmessage hlevel ⟨?_, ?_, ?_⟩
      · rw [Journal.record_of_redactor_eq_empty hjournal]
        rfl
      · rw [Journal.record_of_redactor_eq_empty hjournal]
      · exact Journal.get?_extras_record hjournal _ _ _ _ _
  | error failure =>
      cases failure with
      | fault fault =>
          refine Log.isTrace_pair hmessage hlevel ⟨?_, ?_, ?_⟩
          · rw [Journal.record_of_redactor_eq_empty hjournal]
            rfl
          · rw [Journal.record_of_redactor_eq_empty hjournal]
          · exact Journal.get?_extras_record hjournal _ _ _ _ _
      | invalidUrl error =>
          rw [hended] at h
          simp [passOn] at h
      | headerEncoding =>
          rw [hended] at h
          simp [passOn] at h

end Client

end Service

end QueryBridge
