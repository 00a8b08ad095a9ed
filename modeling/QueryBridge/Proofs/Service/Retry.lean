import QueryBridge.Proofs.Http.Retry
import QueryBridge.Proofs.Service.Settlement
import QueryBridge.Runtime.Standard

/-!
# Retries of a call

A call makes one exchange of its request.  What it returns is what it reads in the response of
the last attempt; a fault of the last attempt, of whatever kind, is reported as a missing
connection.
-/

namespace QueryBridge.Service.Client

open QueryBridge.Bridge (Failure)

theorem attempts_fetch_of_ok {client : Client} {resource : String} {request : Http.Request}
    (h : client.request resource = .ok request) (journal : Journal) (replies : List Http.Reply) :
    (client.fetch journal resource replies).attempts =
      (Http.exchange request client.attempts replies).attempts := by
  rw [attempts_fetch, h]

theorem waits_fetch_of_ok {client : Client} {resource : String} {request : Http.Request}
    (h : client.request resource = .ok request) (journal : Journal) (replies : List Http.Reply) :
    (client.fetch journal resource replies).waits =
      (Http.exchange request client.attempts replies).waits := by
  unfold fetch
  rw [h]
  dsimp only
  split <;> rfl

/-- How a call passes on what its exchange ended with. -/
def passOn : Except Http.Failure Http.Response → Except Failure Http.Response
  | .ok response => .ok response
  | .error (.fault _) => .error (.reported .noConnection)
  | .error (.invalidUrl error) => .error (.invalidUrl error)
  | .error .headerEncoding => .error .headerEncoding

theorem outcome_fetch_eq_passOn {client : Client} {resource : String} {request : Http.Request}
    (h : client.request resource = .ok request) (journal : Journal) (replies : List Http.Reply) :
    (client.fetch journal resource replies).outcome =
      passOn (Http.exchange request client.attempts replies).outcome := by
  rw [outcome_fetch_of_ok h]
  rfl

/-- A call returns the response of its last attempt. -/
theorem outcome_fetch_eq_ok_iff {client : Client} {journal : Journal} {resource : String}
    {replies : List Http.Reply} {response : Http.Response} :
    (client.fetch journal resource replies).outcome = .ok response ↔
      ∃ attempt, (client.fetch journal resource replies).attempts.getLast? = some attempt ∧
        attempt.outcome = .ok response := by
  cases hrequest : client.request resource with
  | error failure =>
      rw [attempts_fetch, hrequest]
      refine iff_of_false (fun hok => ?_) (by simp)
      unfold fetch at hok
      rw [hrequest] at hok
      cases hok
  | ok request =>
      rw [outcome_fetch_eq_passOn hrequest, attempts_fetch_of_ok hrequest, Http.Exchange.outcome,
        Http.Exchange.attempts, List.getLast?_concat]
      generalize Http.exchange request client.attempts replies = exchange
      cases houtcome : exchange.last.outcome with
      | ok last => simp [passOn, houtcome]
      | error failure => cases failure <;> simp [passOn, houtcome]

/-- A call repeats its request, with all redirects, until an attempt does not end in a fault of
the transport or none is left, and waits `min 8 (2 ^ (i - 1))` seconds behind attempt `i`.  It
ends as the last attempt does.  As no attempt sends more than 21 requests, the call has an end and
reads no replies behind those, so they may go on without one. -/
theorem calls_retry_transport_faults {α : Type} (client : Client) (journal : Journal)
    (resource : String) (read : Http.Response → Except Failure α) (request : Http.Request)
    (replies : List Http.Reply) (hattempts : 1 ≤ client.attempts)
    (hrequest : client.request resource = .ok request) :
    let callWith := fun replies => (client.fetch journal resource replies).andThen read
    let call := callWith replies
    ∃ exchange : Http.Exchange,
      call.attempts = exchange.attempts ∧ call.waits = exchange.waits ∧
      exchange.IsRetrial request client.attempts replies ∧
      exchange.waits =
        (List.range exchange.retried.length).map (fun index => min 8 (Nat.pow 2 index)) ∧
      (∀ response, exchange.last.outcome = .ok response → call.outcome = read response) ∧
      (∀ fault, exchange.last.outcome = .error (.fault fault) →
        call.outcome = .error (.reported .noConnection)) ∧
      (∀ attempt ∈ call.attempts, attempt.requests.head? = some request ∧
        attempt.requests.length ≤ 21) ∧
      call.requests.length ≤ 21 * client.attempts ∧
      ∀ others, others.take (21 * client.attempts) = replies.take (21 * client.attempts) →
        (callWith others).outcome = call.outcome ∧ (callWith others).waits = call.waits ∧
          (callWith others).attempts.map Http.Attempt.requests =
            call.attempts.map Http.Attempt.requests := by
  intro callWith call
  have hmade : ∀ replies, (callWith replies).attempts =
      (Http.exchange request client.attempts replies).attempts :=
    fun replies => attempts_fetch_of_ok hrequest journal replies
  have hwaits : ∀ replies, (callWith replies).waits =
      (Http.exchange request client.attempts replies).waits :=
    fun replies => waits_fetch_of_ok hrequest journal replies
  have houtcome : ∀ replies, (callWith replies).outcome =
      (passOn (Http.exchange request client.attempts replies).outcome).bind read :=
    fun replies => congrArg (Except.bind · read) (outcome_fetch_eq_passOn hrequest journal replies)
  refine ⟨Http.exchange request client.attempts replies, hmade replies, hwaits replies,
    Http.isRetrial_exchange hattempts request replies,
    Http.waits_exchange request client.attempts replies, ?_, ?_, ?_, ?_, ?_⟩
  · intro response hlast
    rw [show call.outcome = _ from houtcome replies, Http.Exchange.outcome, hlast]
    rfl
  · intro fault hlast
    rw [show call.outcome = _ from houtcome replies, Http.Exchange.outcome, hlast]
    rfl
  · intro attempt hattempt
    rw [show call.attempts = _ from hmade replies] at hattempt
    refine ⟨Http.head?_requests_of_mem_exchange hattempt, ?_⟩
    obtain ⟨left, rfl⟩ := Http.exists_send_of_mem_exchangeFrom hattempt
    exact Http.length_requests_send_le request left
  · unfold Call.requests
    rw [show call.attempts = _ from hmade replies]
    exact Http.length_requests_exchange_le hattempts request replies
  · intro others hothers
    obtain ⟨hresult, hpauses, hrequests⟩ := Http.exchange_congr_take hattempts hothers request
    refine ⟨?_, ?_, ?_⟩
    · rw [houtcome, hresult, ← houtcome replies]
    · rw [hwaits, hpauses, ← hwaits replies]
    · rw [hmade, hrequests, ← hmade replies]

/-- Two timeouts are retried, with two waits; a fault behind a redirect that is none of the
transport is not, although a fourth attempt is allowed. -/
theorem third_attempt_follows_redirect :
    let client : Client := ⟨"http://h", none, [], 4⟩
    let timeout := Http.Reply.fault ⟨.readTimeout, ""⟩
    let replies := [timeout, timeout, .answer ⟨302, [("Location", "/moved")], []⟩,
      .fault ⟨.decodingError, ""⟩, timeout]
    let call := client.fetchCount client.ownJournal "a=b" replies
    call.attempts.length = 3 ∧ call.waits = [1, 2] ∧ call.requests.length = 4 ∧
      call.requests.length ≤ 21 * 4 ∧
      ∀ others, others.take (21 * 4) = replies.take (21 * 4) →
        (client.fetchCount client.ownJournal "a=b" others).waits = call.waits := by
  intro client timeout replies call
  obtain ⟨request, hrequest⟩ : client.CanSend (countResource "a=b") := by decide +kernel
  obtain ⟨exchange, -, -, -, -, -, -, -, hlength, hothers⟩ := calls_retry_transport_faults client
    client.ownJournal (countResource "a=b") readCount request replies (by decide) hrequest
  refine ⟨by decide +kernel, by decide +kernel, by decide +kernel, hlength, ?_⟩
  intro others h
  exact (hothers others h).2.1

end QueryBridge.Service.Client
