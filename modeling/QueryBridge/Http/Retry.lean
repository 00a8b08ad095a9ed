import QueryBridge.Http.Redirect

/-!
# Retries

A request whose attempt ended in a fault of the transport is tried again, up to a
given number of attempts.  The waits between attempts double from one second up to
eight.
-/

namespace QueryBridge.Http

/-- The seconds to wait after an attempt; attempts are numbered from one. -/
def waitAfter (attempt : Nat) : Nat :=
  min 8 (Nat.pow 2 (attempt - 1))

/-- All attempts at a request: those that were followed by another one, the last one, and
the waits between them. -/
structure Exchange where
  retried : List Attempt
  last : Attempt
  waits : List Nat

namespace Exchange

/-- The attempts in order. -/
def attempts (exchange : Exchange) : List Attempt :=
  exchange.retried ++ [exchange.last]

/-- How the last attempt ended. -/
def outcome (exchange : Exchange) : Except Failure Response :=
  exchange.last.outcome

/-- The replies that are left. -/
def rest (exchange : Exchange) : List Reply :=
  exchange.last.rest

end Exchange

/-- Whether an attempt may be repeated. -/
def Attempt.isRetryable (attempt : Attempt) : Bool :=
  match attempt.outcome with
  | .error (.fault fault) => fault.kind.isTransport
  | _ => false

/-- The attempt with the given number and up to `more` further ones. -/
def exchangeFrom (request : Request) (number : Nat) : Nat → List Reply → Exchange
  | 0, replies => ⟨[], send request replies, []⟩
  | more + 1, replies =>
      let attempt := send request replies
      if attempt.isRetryable then
        let further := exchangeFrom request (number + 1) more attempt.rest
        { further with
          retried := attempt :: further.retried
          waits := waitAfter number :: further.waits }
      else
        ⟨[], attempt, []⟩

/-- Sends a request in at most `attempts` attempts, and at least one. -/
def exchange (request : Request) (attempts : Nat) (replies : List Reply) : Exchange :=
  exchangeFrom request 1 (attempts - 1) replies

end QueryBridge.Http
