import QueryBridge.Proofs.Bridge.Classification
import QueryBridge.Proofs.Bridge.Exposure
import QueryBridge.Proofs.Bridge.Settlement
import QueryBridge.Proofs.Service.Trace
import QueryBridge.Runtime.Standard

/-!
# The trace of an action

Whatever a host asks of the service is one call, with some records around it.  So the records of
an action that settles tell how its last attempt ended: there is an error among them exactly if
the action reports that there is no connection, and it names the fault of that attempt.  The
redactor masks them, these texts included, if they hold a secret.
-/

namespace QueryBridge.Bridge

open QueryBridge.Log (IsTrace)
open QueryBridge.Service (Call Client IsEnded IsSettled isEnded_bind_iff isTrace_log)

/-- Whether an action reports that there is no connection; a verification says so in its
message. -/
def reportsNoConnection : Except Failure Returned → Bool
  | .error (.reported .noConnection) => true
  | .ok (.verification verification) =>
      !verification.success &&
        verification.message == "REST Service verification failed: " ++ Error.noConnection.message
  | _ => false

namespace Adapter

variable {adapter : Adapter} {replies : List Http.Reply}
  {ended : Except Http.Failure Http.Response}

/-! ## Connections -/

/-- A connection that has ended had an attempt to make. -/
theorem one_le_attempts_of_isEnded {authorization : Authorization}
    (hauthorization : adapter.authorization = .ok authorization)
    (h : IsEnded (adapter.connect replies).2.outcome) : 1 ≤ adapter.attempts := by
  by_contra hnone
  have hattempts : adapter.attempts < 1 := by omega
  unfold connect at h
  rw [hauthorization] at h
  dsimp only at h
  unfold connectWith at h
  rw [make_eq, if_pos hattempts] at h
  simp [Except.bind, IsEnded] at h

theorem isTrace_connectWith (hempty : adapter.redactor = .empty) (hattempts : 1 ≤ adapter.attempts)
    {authorization : Authorization}
    (h : IsTrace ((adapter.clientWith authorization).fetch adapter.journal Service.checkPath
      replies).records ended) :
    IsTrace (adapter.connectWith authorization replies).records ended := by
  have hmake : Client.make adapter.endpoint (some authorization) [] adapter.attempts =
      .ok (adapter.clientWith authorization) := by
    rw [make_eq, if_neg (by omega)]
  unfold connectWith
  rw [hmake]
  dsimp only [Call.records_andThen]
  refine IsTrace.cons (isTrace_log ?_ fun status => ?_) ?_
  · rw [Call.records_andThen, Client.checkCredentials, Call.records_andThen]
    exact h
  · exact Service.Journal.isAside_record hempty (by decide) (by decide) _
  · exact Service.Journal.isAside_record hempty (by decide) (by decide) _

/-- A connection that has ended is the call for the check: it ends as the last attempt does, of
which its records tell. -/
theorem exists_trace_connect [Runtime] {authorization : Authorization}
    (hauthorization : adapter.authorization = .ok authorization)
    (h : IsEnded (adapter.connect replies).2.outcome) :
    ∃ last, (adapter.connect replies).2.attempts.getLast? = some last ∧
      IsTrace (adapter.unmaskedRecords (.connect replies)) last.outcome ∧
      (adapter.connect replies).2.outcome = (Client.passOn last.outcome).bind readCheck := by
  have hattempts := one_le_attempts_of_isEnded hauthorization h
  obtain ⟨journal, hsent, houtcome⟩ := connect_of_authorization hattempts hauthorization replies
  rw [houtcome, isEnded_bind_iff fun response => (isSettled_readCheck response).isEnded] at h
  have h := Client.isSettled_fetch_of_isEnded h
  obtain ⟨request, hrequest⟩ := Client.canSend_of_isSettled h
  rw [Client.outcome_fetch_eq_passOn hrequest] at houtcome h
  rw [Client.attempts_fetch_of_ok hrequest] at hsent
  refine ⟨(Http.exchange request _ replies).last, ?_, ?_, houtcome⟩
  · rw [hsent]
    exact List.getLast?_concat
  · unfold unmaskedRecords
    rw [hauthorization]
    exact isTrace_connectWith (redactor_clearSecrets adapter) hattempts
      (Client.isTrace_fetch rfl hrequest h)

theorem isEnded_verify_iff :
    IsEnded (adapter.verify replies).2.outcome ↔ IsEnded (adapter.connect replies).2.outcome := by
  unfold verify
  dsimp only
  cases (adapter.connect replies).2.outcome with
  | ok result => simp [IsEnded]
  | error failure => cases failure <;> simp [IsEnded]

/-! ## Operations -/

variable {operation : Operation} {request : Request}

theorem isTrace_operate {α : Type} {name : String} {prepared : Prepared}
    {run : Prepared → List Http.Reply → Call α} (hempty : adapter.redactor = .empty)
    (hprepare : adapter.prepare request name = .ok prepared)
    (h : IsTrace (run prepared replies).records ended) :
    IsTrace (adapter.operate request name replies run).records ended := by
  have hjournal := (redactor_of_prepare hprepare).trans hempty
  rw [operate_of_prepare hprepare]
  exact h.cons (Service.Journal.isAside_record hjournal (by decide) (by decide) _)

/-- An operation adds nothing to the trace of its call. -/
theorem isTrace_run [Runtime] (hempty : adapter.redactor = .empty) {client : Client}
    {resource : String}
    (htarget : adapter.target operation request = .ok (client, resource))
    (h : IsTrace (client.fetch adapter.journal resource replies).records ended) :
    IsTrace (adapter.run operation request replies).records ended := by
  unfold target at htarget
  cases hprepare : adapter.prepare request operation.name with
  | error error =>
      rw [hprepare] at htarget
      cases htarget
  | ok prepared =>
      rw [hprepare] at htarget
      dsimp only at htarget
      have hjournal := (redactor_of_prepare hprepare).trans hempty
      cases operation with
      | count =>
          cases htarget
          show IsTrace (adapter.count request replies).records ended
          refine isTrace_operate hempty hprepare ?_
          rw [Call.records_andThen]
          refine isTrace_log ?_ fun value => ?_
          · exact h
          exact Service.Journal.isAside_record hjournal (by decide) (by decide) _
      | search =>
          cases htarget
          show IsTrace (adapter.search request replies).records ended
          refine isTrace_operate hempty hprepare ?_
          dsimp only
          refine isTrace_log ?_ fun page => ?_
          · exact h
          exact Service.Journal.isAside_record hjournal (by decide) (by decide) _
      | retrieve =>
          rw [Operation.resource_retrieve] at htarget
          cases hid : recordId request.query prepared.query with
          | error error =>
              rw [hid] at htarget
              cases htarget
          | ok id =>
              rw [hid] at htarget
              cases htarget
              show IsTrace (adapter.retrieve request replies).records ended
              refine isTrace_operate hempty hprepare ?_
              dsimp only
              rw [hid]
              dsimp only
              rw [Call.records_andThen]
              refine isTrace_log ?_ fun payload => ?_
              · exact h
              exact Service.Journal.isAside_record hjournal (by decide) (by decide) _

theorem target_clearSecrets (adapter : Adapter) (operation : Operation) (request : Request) :
    adapter.clearSecrets.target operation request = adapter.target operation request := by
  unfold target
  rw [prepare_clearSecrets]
  cases adapter.prepare request operation.name <;> rfl

/-- An operation that has ended did so as its last attempt does, of which its records tell. -/
theorem exists_trace_run [Runtime] {client : Client} {resource : String}
    (htarget : adapter.target operation request = .ok (client, resource))
    (h : IsEnded (adapter.run operation request replies).outcome) :
    ∃ last, (adapter.run operation request replies).attempts.getLast? = some last ∧
      IsTrace (adapter.unmaskedRecords (.operate operation request replies)) last.outcome ∧
      (adapter.run operation request replies).outcome =
        (Client.passOn last.outcome).bind (operation.read request.fields) := by
  obtain ⟨houtcome, hattempts⟩ := run_of_target_ok htarget replies
  rw [houtcome, isEnded_bind_iff fun response =>
    (settlesUnlessDeep_read operation request.fields response).isEnded] at h
  have h := Client.isSettled_fetch_of_isEnded h
  obtain ⟨sent, hsent⟩ := Client.canSend_of_isSettled h
  rw [Client.outcome_fetch_eq_passOn hsent] at houtcome h
  rw [Client.attempts_fetch_of_ok hsent] at hattempts
  refine ⟨(Http.exchange sent _ replies).last, ?_, ?_, houtcome⟩
  · rw [hattempts]
    exact List.getLast?_concat
  · exact isTrace_run (redactor_clearSecrets adapter)
      ((target_clearSecrets adapter operation request).trans htarget)
      (Client.isTrace_fetch rfl hsent h)

/-! ## What is reported -/

/-- Where no reading of a response gives a missing connection, only a fault does. -/
theorem reportsNoConnection_bind_iff {read : Http.Response → Except Failure Returned}
    (hread : ∀ response, reportsNoConnection (read response) = false)
    (ended : Except Http.Failure Http.Response) :
    reportsNoConnection ((Client.passOn ended).bind read) = true ↔
      ∃ fault, ended = .error (.fault fault) := by
  cases ended with
  | ok response => simp [Client.passOn, Except.bind, hread]
  | error failure =>
      cases failure <;> simp [Client.passOn, Except.bind, reportsNoConnection]

theorem reportsNoConnection_connect [Runtime]
    (h : (adapter.connect replies).2.outcome = (Client.passOn ended).bind readCheck) :
    reportsNoConnection (adapter.perform (.connect replies)).2.outcome = true ↔
      ∃ fault, ended = .error (.fault fault) := by
  have hread : ∀ response, reportsNoConnection
      ((readCheck response).bind fun _ => .ok .nothing) = false := by
    intro response
    unfold readCheck checkRefused
    split <;> rfl
  have houtcome : (adapter.perform (.connect replies)).2.outcome = (Client.passOn ended).bind
      fun response => (readCheck response).bind fun _ => .ok .nothing := by
    unfold perform
    dsimp only
    rw [Call.outcome_andThen, h]
    cases Client.passOn ended <;> rfl
  rw [houtcome]
  exact reportsNoConnection_bind_iff hread ended

/-- The message of a verification tells a missing connection from refused credentials. -/
theorem reportsNoConnection_verify [Runtime]
    (h : (adapter.connect replies).2.outcome = (Client.passOn ended).bind readCheck) :
    reportsNoConnection (adapter.perform (.verify replies)).2.outcome = true ↔
      ∃ fault, ended = .error (.fault fault) := by
  have hmessages : Error.refused.message ≠ Error.noConnection.message := by decide
  unfold perform verify
  dsimp only
  rw [Call.outcome_andThen, h]
  cases ended with
  | ok response =>
      unfold readCheck checkRefused
      by_cases hrefused : response.status = 401 <;>
        simp [hrefused, hmessages, Client.passOn, Except.bind, Except.map, reportsNoConnection]
  | error failure =>
      cases failure <;> simp [Client.passOn, Except.bind, reportsNoConnection]

/-- What an operation reads is neither a missing connection nor a verification. -/
theorem reportsNoConnection_read [Runtime] (operation : Operation) (fields : List CodeString)
    (response : Http.Response) : reportsNoConnection (operation.read fields response) = false := by
  have hread := (Operation.isClassified_read operation fields response).ne_noConnection
  have hmap : ∀ {α : Type} (outcome : Except Failure α) (give : α → Returned),
      (∀ value, reportsNoConnection (.ok (give value)) = false) →
      outcome.map give ≠ .error (.reported .noConnection) →
      reportsNoConnection (outcome.map give) = false := by
    intro α outcome give hgive hne
    cases outcome with
    | ok value => exact hgive value
    | error failure =>
        cases failure with
        | reported error =>
            cases error with
            | noConnection => exact absurd rfl hne
            | _ => rfl
        | _ => rfl
  cases operation with
  | count => exact hmap _ _ (fun _ => rfl) hread
  | retrieve => exact hmap _ _ (fun _ => rfl) hread
  | search => exact hmap _ _ (fun _ => rfl) hread

/-! ## Actions -/

/-- An action that makes attempts and has ended has the trace of the last one, and reports that
there is no connection exactly if that one ended in a fault. -/
theorem exists_trace_perform [Runtime] {action : Action}
    (hended : IsEnded (adapter.perform action).2.outcome)
    (hsent : (adapter.perform action).2.attempts ≠ []) :
    ∃ last, (adapter.perform action).2.attempts.getLast? = some last ∧
      IsTrace (adapter.unmaskedRecords action) last.outcome ∧
      (reportsNoConnection (adapter.perform action).2.outcome = true ↔
        ∃ fault, last.outcome = .error (.fault fault)) := by
  have hconnect : ∀ replies, (adapter.connect replies).2.attempts ≠ [] →
      ∃ authorization, adapter.authorization = .ok authorization := by
    intro replies hattempts
    cases hauthorization : adapter.authorization with
    | error error =>
        rw [connect_of_authorization_error hauthorization] at hattempts
        exact absurd rfl hattempts
    | ok authorization => exact ⟨authorization, rfl⟩
  cases action with
  | setProperties values => exact absurd rfl hsent
  | listProperties => exact absurd rfl hsent
  | connect replies =>
      obtain ⟨authorization, hauthorization⟩ := hconnect replies hsent
      obtain ⟨last, hlast, htrace, houtcome⟩ := exists_trace_connect hauthorization
        ((isEnded_bind_iff fun _ => (Service.isSettled_ok _).isEnded).mp hended)
      exact ⟨last, hlast, htrace, reportsNoConnection_connect houtcome⟩
  | verify replies =>
      obtain ⟨authorization, hauthorization⟩ := hconnect replies hsent
      have hverified : IsEnded (adapter.verify replies).2.outcome :=
        (isEnded_bind_iff fun _ => (Service.isSettled_ok _).isEnded).mp hended
      obtain ⟨last, hlast, htrace, houtcome⟩ :=
        exists_trace_connect hauthorization (isEnded_verify_iff.mp hverified)
      exact ⟨last, hlast, htrace, reportsNoConnection_verify houtcome⟩
  | operate operation request replies =>
      cases htarget : adapter.target operation request with
      | error error => exact absurd (run_of_target_error htarget replies).2 hsent
      | ok found =>
          obtain ⟨client, resource⟩ := found
          obtain ⟨last, hlast, htrace, houtcome⟩ := exists_trace_run htarget hended
          refine ⟨last, hlast, htrace, ?_⟩
          rw [show (adapter.perform (.operate operation request replies)).2.outcome = _ from
            houtcome]
          exact reportsNoConnection_bind_iff
            (reportsNoConnection_read operation request.fields) last.outcome

/-- A text with a secret that the redactor holds is the message of no record. -/
theorem message_ne_of_held [Runtime] (adapter : Adapter) (action : Action)
    {secret text : CodeString} (hproper : adapter.redactor.IsProper)
    (hheld : secret ∈ (adapter.perform action).1.redactor.secrets)
    (hstars : Log.star ∉ secret.codes) (h : secret.codes <:+: text.codes) :
    ∀ record ∈ (adapter.perform action).2.records, record.message ≠ text := by
  intro record hrecord hmessage
  rw [records_perform] at hrecord
  obtain ⟨made, -, rfl⟩ := List.mem_map.mp hrecord
  rw [redactor_perform] at hheld hmessage
  have hhidden := (hproper.add _).not_infix_redact hheld hstars made.message
  rw [← hmessage] at h
  exact hhidden h

/-- Whatever an action asks of the service, once it has sent its request and has ended, exactly one
of its records is of the request, and behind it is exactly one more of the exchange, which tells
how the last attempt ended.  An error is recorded exactly if the action reports that there is no
connection, and then it is that one record.  The records are given out with the secrets masked
that the redactor holds; those that mention none of them are not changed. -/
theorem records_tell_last_attempt [Runtime] (adapter : Adapter) (action : Action)
    (hended : IsEnded (adapter.perform action).2.outcome)
    (hsent : (adapter.perform action).2.attempts ≠ []) :
    let performed := adapter.perform action
    let made := adapter.unmaskedRecords action
    let masked := Log.Record.redact performed.1.redactor
    performed.2.records = made.map masked ∧
    (∀ record ∈ made, (∀ secret ∈ performed.1.redactor.secrets, ¬ record.Mentions secret) →
      masked record = record) ∧
    ∃ last request answer, performed.2.attempts.getLast? = some last ∧
      made.filter (fun record => record.IsOfExchange) = [request, answer] ∧
      request.message = "HTTP request" ∧
      answer.Tells id last.outcome ∧
      (masked answer).Tells performed.1.redactor.redact last.outcome ∧
      (reportsNoConnection performed.2.outcome = true ↔
        ∃ fault, last.outcome = .error (.fault fault)) ∧
      performed.2.records.filter (fun record => record.IsError) =
        if reportsNoConnection performed.2.outcome then [masked answer] else [] := by
  intro performed made masked
  obtain ⟨last, hlast, ⟨request, answer, hexchange, hrequest, hanswer, herror⟩, hreports⟩ :=
    exists_trace_perform hended hsent
  refine ⟨records_perform adapter action,
    fun record _ hunmentioned => Log.Record.redact_of_not_mentions hunmentioned,
    last, request, answer, hlast, hexchange, hrequest, hanswer, hanswer.redact _, hreports, ?_⟩
  rw [show performed.2.records = made.map masked from records_perform adapter action,
    Log.Record.filter_isError_map_redact, show made.filter _ = _ from herror]
  have hiff := hreports.trans hanswer.isError_iff.symm
  by_cases hfault : answer.IsError
  · simp [hfault, hiff.mpr hfault, performed, masked]
  · simp [hfault, mt hiff.mp hfault, performed]

/-- Of two faults the one error of a verification names the second. -/
theorem last_fault_is_recorded :
    let adapter := make "http://h" .default 2 (some (.basic "user" "pass"))
    let performed := adapter.perform
      (.verify [.fault ⟨.connectError, "refused"⟩, .fault ⟨.readTimeout, "slow"⟩])
    IsSettled performed.2.outcome ∧ performed.2.attempts ≠ [] ∧
      ∃ error, performed.2.records.filter (fun record => record.IsError) = [error] ∧
        Fields.get? error.extras "error" = some (.text "ReadTimeout: slow") := by
  intro adapter performed
  have hsettled : IsSettled performed.2.outcome := by decide +kernel
  have hsent : performed.2.attempts ≠ [] := by
    rw [← List.isEmpty_eq_false_iff]
    decide +kernel
  obtain ⟨-, -, last, request, answer, hlast, -, -, -, htells, hreports, herror⟩ :=
    records_tell_last_attempt adapter _ hsettled.isEnded hsent
  have hfault : performed.2.attempts.getLast?.map Http.Attempt.outcome =
      some (.error (.fault ⟨.readTimeout, "slow"⟩)) := by
    decide +kernel
  rw [show performed.2.attempts.getLast? = _ from hlast] at hfault
  have houtcome := Option.some.inj hfault
  rw [houtcome] at htells hreports
  rw [if_pos (hreports.mpr ⟨_, rfl⟩)] at herror
  obtain ⟨-, -, hfault⟩ := htells
  have htext : Http.Fault.text ⟨.readTimeout, "slow"⟩ = "ReadTimeout: slow" := by decide
  rw [htext, Log.Redactor.redact_of_not_infix (by decide +kernel)] at hfault
  exact ⟨hsettled, hsent, _, herror, hfault⟩

/-- A password that occurs in the message of the request hides it in the record. -/
theorem password_hides_message_of_request :
    let adapter := (make "http://rest.example.com" .default 1 none).after
      [.setProperties [("Username", some "alice"), ("Password", some "HTTP")]]
    let performed := adapter.perform (.connect [])
    IsSettled performed.2.outcome ∧ performed.2.attempts.length = 1 ∧
      ∀ record ∈ performed.2.records, record.message ≠ "HTTP request" := by
  intro adapter performed
  have hproper : adapter.redactor.IsProper :=
    isProper_redactor_after "http://rest.example.com" .default 1 none _
  have hheld : CodeString.text "HTTP" ∈ (adapter.perform (.connect [])).1.redactor.secrets := by
    decide +kernel
  exact ⟨by decide +kernel, by decide +kernel,
    message_ne_of_held adapter (.connect []) hproper hheld (by decide) (by decide)⟩

end Adapter

end QueryBridge.Bridge
