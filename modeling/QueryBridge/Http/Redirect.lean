import QueryBridge.Http.Message

/-!
# Redirects

An answer with a redirecting status and a location leads to another request, up to
`maxRedirects` times.  The credentials are left out once the target has another
origin, unless it is the secure form of the same host.
-/

namespace QueryBridge.Http

def maxRedirects : Nat := 20

/-! ## Origins -/

/-- The port that is meant, for the schemes of the web. -/
def effectivePort? (url : Url) : Option Int :=
  match url.port with
  | some port => some port
  | none => [("http", 80), ("https", 443)].lookup (String.ofList url.scheme)

def sameOrigin (first second : Url) : Bool :=
  first.scheme == second.scheme && first.host == second.host &&
    effectivePort? first == effectivePort? second

/-- Whether `target` is the secure form of `source`, both at their usual ports. -/
def isSecureForm (source target : Url) : Bool :=
  source.host == target.host &&
    String.ofList source.scheme == "http" && effectivePort? source == some 80 &&
    String.ofList target.scheme == "https" && effectivePort? target == some 443

/-! ## The next request -/

def redirectStatuses : List Nat := [301, 302, 303, 307, 308]

/-- Where an answer leads. -/
def Answer.location? (answer : Answer) : Option String :=
  if redirectStatuses.contains answer.status then
    (Headers.joined? "Location" answer.headers).bind CodeString.text?
  else none

def redirectHeaders (source target : Url) (headers : Headers) : Headers :=
  let kept :=
    if sameOrigin target source || isSecureForm source target then headers
    else Headers.erase Authorization.headerName headers
  Headers.erase "Cookie" kept

/-- The request that a location leads to. -/
def Request.redirect (request : Request) (location : String) : Except Failure Request :=
  match Url.parse location.toList with
  | .error error =>
      .error (.fault ⟨.remoteProtocolError,
        "Invalid URL in location header: " ++ error.message ++ "."⟩)
  | .ok location =>
      match Url.follow request.url location with
      | .error error => .error (.invalidUrl error)
      | .ok target => .ok ⟨target, redirectHeaders request.url target request.headers⟩

/-! ## Sending -/

/-- One attempt: how it ended, the requests that were sent, and the replies that are
left. -/
structure Attempt where
  outcome : Except Failure Response
  requests : List Request
  rest : List Reply

/-- Sends a request and follows the answers, with at most `budget` requests. -/
def follow : Nat → Request → List Reply → Attempt
  | 0, _, replies =>
      ⟨.error (.fault ⟨.tooManyRedirects, "Exceeded maximum allowed redirects."⟩), [], replies⟩
  | budget + 1, request, replies =>
      let rest := replies.drop 1
      match replies.head?.getD .blank with
      | .fault fault => ⟨.error (.fault fault), [request], rest⟩
      | .answer answer =>
          if !Headers.areEncodable answer.headers then
            ⟨.error .headerEncoding, [request], rest⟩
          else
            match answer.location? with
            | none => ⟨.ok ⟨answer.status, answer.body, request.url⟩, [request], rest⟩
            | some location =>
                match request.redirect location with
                | .error failure => ⟨.error failure, [request], rest⟩
                | .ok next =>
                    let further := follow budget next rest
                    { further with requests := request :: further.requests }

/-- Sends a request and follows redirects. -/
def send (request : Request) (replies : List Reply) : Attempt :=
  follow (maxRedirects + 1) request replies

end QueryBridge.Http
