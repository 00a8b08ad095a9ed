import QueryBridge.Proofs.Http.Concealment
import QueryBridge.Proofs.Log.Redaction
import QueryBridge.Proofs.Service.Request
import QueryBridge.Proofs.Text.Base64

/-!
# Calls without secrets

Two views of a call hide its secrets.  `mask` puts the redactor's mask on records that were
made without one; `conceal` blanks the authorization headers of its requests.  A client with
other credentials for the same user makes the same concealed calls.
-/

namespace QueryBridge.Service

open QueryBridge.Bridge (Failure)

/-! ## Records made without a mask -/

namespace Journal

/-- The journal without its redactor. -/
def plain (journal : Journal) : Journal :=
  { journal with redactor := .empty }

theorem record_eq_redact (journal : Journal) (level : Log.Level) (message : String)
    (extras : Fields Json.Value) :
    journal.record level message extras =
      (journal.plain.record level message extras).redact journal.redactor := by
  unfold record plain
  dsimp only
  rw [Log.Record.redact_empty]

end Journal

namespace Call

variable {α β : Type}

/-- Masks the records of a call. -/
def mask (redactor : Log.Redactor) (call : Call α) : Call α :=
  { call with records := call.records.map (Log.Record.redact redactor) }

/-- Blanks the credentials in the requests of a call. -/
def conceal (call : Call α) : Call α :=
  { call with attempts := call.attempts.map Http.Attempt.conceal }

theorem mask_andThen (redactor : Log.Redactor) (call : Call α) (read : α → Except Failure β) :
    (call.mask redactor).andThen read = (call.andThen read).mask redactor := rfl

theorem mask_log (redactor : Log.Redactor) (call : Call α) (record : α → Log.Record) :
    (call.mask redactor).log (fun value => (record value).redact redactor) =
      (call.log record).mask redactor := by
  obtain ⟨outcome, attempts, waits, records, rest⟩ := call
  cases outcome with
  | error failure => rfl
  | ok value =>
      unfold log mask
      dsimp only
      rw [List.map_append]
      rfl

theorem log_mask (call : Call α) (journal : Journal) (level : Log.Level) (message : String)
    (extras : α → Fields Json.Value) :
    (call.mask journal.redactor).log (fun value => journal.record level message (extras value)) =
      (call.log fun value => journal.plain.record level message (extras value)).mask
        journal.redactor := by
  rw [← mask_log]
  exact congrArg _ (funext fun value => Journal.record_eq_redact journal level message _)

theorem conceal_andThen (call : Call α) (read : α → Except Failure β) :
    (call.andThen read).conceal = call.conceal.andThen read := rfl

theorem conceal_log (call : Call α) (record : α → Log.Record) :
    (call.log record).conceal = call.conceal.log record := by
  obtain ⟨outcome, attempts, waits, records, rest⟩ := call
  cases outcome with
  | error failure => rfl
  | ok value => rfl

/-- Concealed calls agree on everything but the credentials in requests. -/
theorem conceal_eq_iff {first second : Call α} :
    first.conceal = second.conceal ↔ first.outcome = second.outcome ∧
      first.attempts.map Http.Attempt.conceal = second.attempts.map Http.Attempt.conceal ∧
      first.waits = second.waits ∧ first.records = second.records ∧ first.rest = second.rest := by
  unfold conceal
  rw [Call.mk.injEq]

theorem map_conceal_requests (call : Call α) :
    call.requests.map Http.Request.conceal =
      (call.attempts.map Http.Attempt.conceal).flatMap Http.Attempt.requests := by
  unfold requests
  rw [List.map_flatMap, List.flatMap_map]
  rfl

theorem conceal_mk_congr {first second : Http.Exchange} (h : first.conceal = second.conceal)
    (outcome : Except Failure α) (records : List Log.Record) :
    (Call.mk outcome first.attempts first.waits records first.rest).conceal =
      (Call.mk outcome second.attempts second.waits records second.rest).conceal := by
  have hattempts := congrArg Http.Exchange.attempts h
  rw [Http.Exchange.attempts_conceal, Http.Exchange.attempts_conceal] at hattempts
  have hwaits : first.conceal.waits = second.conceal.waits := congrArg Http.Exchange.waits h
  have hrest : first.conceal.rest = second.conceal.rest := congrArg Http.Exchange.rest h
  rw [Http.Exchange.waits_conceal, Http.Exchange.waits_conceal] at hwaits
  rw [Http.Exchange.rest_conceal, Http.Exchange.rest_conceal] at hrest
  unfold conceal
  dsimp only
  rw [hattempts, hwaits, hrest]

end Call

namespace Client

/-- The records of a call are masked, and nothing else depends on the redactor. -/
theorem fetch_eq_mask (client : Client) (journal : Journal) (resource : String)
    (replies : List Http.Reply) :
    client.fetch journal resource replies =
      (client.fetch journal.plain resource replies).mask journal.redactor := by
  unfold fetch
  cases client.request resource with
  | error failure =>
      dsimp only
      rw [Journal.record_eq_redact]
      rfl
  | ok request =>
      dsimp only
      cases (Http.exchange request client.attempts replies).outcome with
      | ok response =>
          dsimp only
          rw [Journal.record_eq_redact, Journal.record_eq_redact journal]
          rfl
      | error failure =>
          cases failure with
          | fault fault =>
              dsimp only
              rw [Journal.record_eq_redact, Journal.record_eq_redact journal]
              rfl
          | invalidUrl error =>
              dsimp only
              rw [Journal.record_eq_redact]
              rfl
          | headerEncoding =>
              dsimp only
              rw [Journal.record_eq_redact]
              rfl

/-! ## Clients that differ in the password -/

/-- The clients have credentials of one user with any two passwords, and else are the same. -/
def SameButPassword (first second : Client) : Prop :=
  ∃ baseUrl username password password' attempts,
    first = ⟨baseUrl, some (.basic username password), [], attempts⟩ ∧
      second = ⟨baseUrl, some (.basic username password'), [], attempts⟩

theorem isAscii_header_basic (username password : String) :
    Http.Headers.isAscii (Authorization.basic username password).header = true := by
  unfold Http.Headers.isAscii Authorization.header Authorization.basicToken
  dsimp only
  have hscheme : ("Basic ".toList.all fun c => c.toNat < 0x80) = true := rfl
  rw [CodeString.codes_text, List.all_map, String.toList_append, List.all_append]
  refine Bool.and_eq_true_iff.mpr ⟨hscheme, List.all_eq_true.mpr fun c hc => ?_⟩
  rw [String.toList_ofList] at hc
  simpa using Text.Base64.toNat_lt_of_mem_encode hc

/-- Credentials can always be sent, whatever their characters are. -/
theorem areEncodable_headers {client : Client} {username password : String}
    (hauthorization : client.authorization = some (.basic username password))
    (hdefaults : client.defaultHeaders = []) :
    Http.Headers.areEncodable client.headers = true := by
  have hascii := isAscii_header_basic username password
  rw [headers_eq hauthorization hdefaults]
  unfold Http.Headers.areEncodable
  simp only [List.all_cons, List.all_nil, hascii, Bool.and_true]
  decide

theorem conceal_withUrlCredentials (url : Url) {first second : Http.Headers}
    (h : Http.Headers.conceal first = Http.Headers.conceal second) :
    Http.Headers.conceal (withUrlCredentials url first) =
      Http.Headers.conceal (withUrlCredentials url second) := by
  unfold withUrlCredentials
  dsimp only
  split
  · exact h
  · rw [Http.Headers.conceal_set, Http.Headers.conceal_set, h]

theorem conceal_sentHeaders (authorization : Authorization) :
    Http.Headers.conceal
        [("Accept", .text "application/json"), (Authorization.headerName, authorization.header)] =
      [("Accept", .text "application/json"), (Authorization.headerName, .text "")] := by
  unfold Http.Headers.conceal
  rw [List.map_cons, List.map_cons, List.map_nil, Http.Headers.concealOne_authorization,
    Http.Headers.concealOne, if_neg (by decide)]

theorem map_conceal_request {first second : Client} (h : SameButPassword first second)
    (resource : String) :
    (first.request resource).map Http.Request.conceal =
      (second.request resource).map Http.Request.conceal := by
  obtain ⟨baseUrl, username, password, password', attempts, rfl, rfl⟩ := h
  unfold request
  rw [areEncodable_headers rfl rfl, areEncodable_headers rfl rfl]
  simp only [bind, Except.bind, Except.mapError, Bool.not_true, Bool.false_eq_true, if_false]
  cases Url.parse baseUrl.toList with
  | error error => rfl
  | ok root =>
      dsimp only
      cases root.toBase with
      | error error => rfl
      | ok base =>
          dsimp only
          cases base.below resource.toList with
          | error error => rfl
          | ok url =>
              dsimp only [Except.map, pure, Except.pure, Http.Request.conceal]
              rw [sentHeaders_eq rfl rfl, sentHeaders_eq rfl rfl,
                conceal_withUrlCredentials url ((conceal_sentHeaders _).trans
                  (conceal_sentHeaders (.basic username password')).symm)]

/-- What a call does but for its credentials is the same for both clients. -/
theorem conceal_fetch {first second : Client} (h : SameButPassword first second)
    (journal : Journal) (resource : String) (replies : List Http.Reply) :
    (first.fetch journal resource replies).conceal =
      (second.fetch journal resource replies).conceal := by
  have hrequest := map_conceal_request h resource
  have hattempts : first.attempts = second.attempts := by
    obtain ⟨_, _, _, _, _, rfl, rfl⟩ := h
    rfl
  unfold fetch
  rw [hattempts]
  cases hfirst : first.request resource with
  | error failure =>
      rw [hfirst] at hrequest
      cases hsecond : second.request resource with
      | error failure' =>
          rw [hsecond] at hrequest
          cases hrequest
          rfl
      | ok request' =>
          rw [hsecond] at hrequest
          cases hrequest
  | ok request =>
      rw [hfirst] at hrequest
      cases hsecond : second.request resource with
      | error failure' =>
          rw [hsecond] at hrequest
          cases hrequest
      | ok request' =>
          rw [hsecond] at hrequest
          -- an exchange reads nothing of the credentials
          have hexchange := Http.conceal_exchange_congr (Except.ok.inj hrequest) second.attempts
            replies
          have houtcome := Http.Exchange.outcome_congr hexchange
          have hcall := Call.conceal_mk_congr hexchange (α := Http.Response)
          dsimp only
          rw [houtcome]
          cases (Http.exchange request' second.attempts replies).outcome with
          | ok response => exact hcall _ _
          | error failure =>
              cases failure with
              | fault fault => exact hcall _ _
              | invalidUrl error => exact hcall _ _
              | headerEncoding => exact hcall _ _

end Client

end QueryBridge.Service
