import QueryBridge.Http.Retry

/-!
# Exchanges without credentials

To conceal a request is to blank the values of its authorization headers.  Redirects and
retries read nothing of these values, so an exchange of a concealed request is the concealed
exchange of the request.
-/

namespace QueryBridge.Http

/-! ## Concealing -/

/-- Blanks the value of a header if it is an authorization. -/
def Headers.concealOne (header : String × CodeString) : String × CodeString :=
  if foldName header.1 = foldName Authorization.headerName then (header.1, "") else header

def Headers.conceal (headers : Headers) : Headers :=
  headers.map Headers.concealOne

def Request.conceal (request : Request) : Request :=
  { request with headers := Headers.conceal request.headers }

def Attempt.conceal (attempt : Attempt) : Attempt :=
  { attempt with requests := attempt.requests.map Request.conceal }

def Exchange.conceal (exchange : Exchange) : Exchange :=
  { exchange with
    retried := exchange.retried.map Attempt.conceal
    last := exchange.last.conceal }

/-! ## Headers -/

theorem Headers.fst_concealOne (header : String × CodeString) :
    (concealOne header).1 = header.1 := by
  unfold concealOne
  split <;> rfl

theorem Headers.concealOne_authorization (value : CodeString) :
    concealOne (Authorization.headerName, value) = (Authorization.headerName, .text "") :=
  if_pos rfl

theorem Headers.conceal_erase (name : String) (headers : Headers) :
    conceal (erase name headers) = erase name (conceal headers) := by
  unfold conceal erase
  rw [List.filter_map]
  refine congrArg (List.map concealOne) (List.filter_congr fun header _ => ?_)
  rw [Function.comp_apply, fst_concealOne]

/-- Whatever is set under the name of authorizations is concealed. -/
theorem Headers.conceal_set (value : CodeString) (headers : Headers) :
    conceal (set Authorization.headerName value headers) =
      set Authorization.headerName "" (conceal headers) := by
  induction headers with
  | nil => exact congrArg (fun header => [header]) (concealOne_authorization value)
  | cons header headers ih =>
      have herase := conceal_erase Authorization.headerName headers
      unfold conceal at ih herase ⊢
      rw [set, List.map_cons, set, fst_concealOne]
      split
      · rw [List.map_cons, concealOne_authorization, herase]
      · rw [List.map_cons, ih]

/-! ## Redirects -/

theorem conceal_redirectHeaders (source target : Url) (headers : Headers) :
    Headers.conceal (redirectHeaders source target headers) =
      redirectHeaders source target (Headers.conceal headers) := by
  unfold redirectHeaders
  dsimp only
  rw [Headers.conceal_erase]
  split
  · rfl
  · rw [Headers.conceal_erase]

theorem redirect_conceal (request : Request) (location : String) :
    request.conceal.redirect location = (request.redirect location).map Request.conceal := by
  unfold Request.redirect
  cases Url.parse location.toList with
  | error error => rfl
  | ok target =>
      dsimp only [Request.conceal]
      cases Url.follow request.url target with
      | error error => rfl
      | ok url =>
          dsimp only [Except.map]
          rw [Request.conceal, conceal_redirectHeaders]

theorem follow_conceal (budget : Nat) (request : Request) (replies : List Reply) :
    follow budget request.conceal replies = (follow budget request replies).conceal := by
  induction budget generalizing request replies with
  | zero => rfl
  | succ budget ih =>
      unfold follow
      dsimp only
      cases replies.head?.getD .blank with
      | fault fault => rfl
      | answer answer =>
          dsimp only
          split
          · rfl
          · cases answer.location? with
            | none => rfl
            | some location =>
                dsimp only
                rw [redirect_conceal]
                cases request.redirect location with
                | error failure => rfl
                | ok next =>
                    dsimp only [Except.map]
                    rw [ih]
                    rfl

/-! ## Retries -/

theorem send_conceal (request : Request) (replies : List Reply) :
    send request.conceal replies = (send request replies).conceal :=
  follow_conceal _ request replies

theorem Attempt.isRetryable_conceal (attempt : Attempt) :
    attempt.conceal.isRetryable = attempt.isRetryable := rfl

theorem exchangeFrom_conceal (request : Request) (number more : Nat) (replies : List Reply) :
    exchangeFrom request.conceal number more replies =
      (exchangeFrom request number more replies).conceal := by
  induction more generalizing number replies with
  | zero =>
      unfold exchangeFrom
      rw [send_conceal]
      rfl
  | succ more ih =>
      unfold exchangeFrom
      dsimp only
      rw [send_conceal, ih, Attempt.isRetryable_conceal]
      by_cases hretryable : (send request replies).isRetryable = true
      · rw [if_pos hretryable, if_pos hretryable]
        rfl
      · rw [if_neg hretryable, if_neg hretryable]
        rfl

/-- Requests that differ in credentials only lead to exchanges that do. -/
theorem conceal_exchange_congr {first second : Request} (h : first.conceal = second.conceal)
    (attempts : Nat) (replies : List Reply) :
    (exchange first attempts replies).conceal = (exchange second attempts replies).conceal := by
  unfold exchange
  rw [← exchangeFrom_conceal, h, exchangeFrom_conceal]

theorem Exchange.waits_conceal (exchange : Exchange) : exchange.conceal.waits = exchange.waits :=
  rfl

theorem Exchange.rest_conceal (exchange : Exchange) : exchange.conceal.rest = exchange.rest := rfl

theorem Exchange.attempts_conceal (exchange : Exchange) :
    exchange.conceal.attempts = exchange.attempts.map Attempt.conceal := by
  unfold attempts
  rw [List.map_append]
  rfl

theorem Exchange.outcome_congr {first second : Exchange} (h : first.conceal = second.conceal) :
    first.outcome = second.outcome := by
  have houtcome : first.conceal.outcome = second.conceal.outcome := congrArg outcome h
  exact houtcome

end QueryBridge.Http
