import QueryBridge.Bridge.Error
import QueryBridge.Http.Retry
import QueryBridge.Json.Reader
import QueryBridge.Log.Record
import QueryBridge.Query
import QueryBridge.Runtime

/-!
# The client of the service

The service has four resources below its root: one that checks credentials, and one
each for counting, retrieving and searching records.  A call sends one request, with
its retries and redirects, classifies the status of the final response and reads the
JSON document in its body.  It makes one log record before the request and one after
it.
-/

namespace QueryBridge.Service

open QueryBridge.Bridge (Error FormatError Failure)

/-! ## Resources -/

def checkPath : String := "/path/to/authentication/check"

def countPath : String := "/path/to/count/endpoint"

def retrievePath : String := "/path/to/retrieve/record"

def searchPath : String := "/path/to/search/records"

def countResource (escapedQuery : String) : String :=
  countPath ++ "?query=" ++ escapedQuery

def recordResource (recordId : String) : String :=
  retrievePath ++ "/" ++ Text.Percent.encode recordId

def searchResource (escapedQuery : String) : String :=
  if escapedQuery = "" then searchPath else searchPath ++ "?" ++ escapedQuery

/-! ## Log records -/

/-- Where records go: a logger with extras, and the redactor that masks them. -/
structure Journal where
  logger : String
  extras : Fields Json.Value
  redactor : Log.Redactor
deriving Repr

namespace Journal

/-- The record of an event. -/
def record (journal : Journal) (level : Log.Level) (message : String)
    (extras : Fields Json.Value) : Log.Record :=
  Log.Record.redact journal.redactor
    ⟨level, journal.logger, message, Fields.override journal.extras extras⟩

def bind (journal : Journal) (extras : Fields Json.Value) : Journal :=
  { journal with extras := Fields.override journal.extras extras }

end Journal

/-! ## Calls -/

/-- What a call does: its outcome, the attempts at sending its request, the waits between
them, the log records, and the replies that are left. -/
structure Call (α : Type) where
  outcome : Except Failure α
  attempts : List Http.Attempt
  waits : List Nat
  records : List Log.Record
  rest : List Http.Reply

namespace Call

variable {α β : Type}

/-- The requests that a call sends, in order. -/
def requests (call : Call α) : List Http.Request :=
  call.attempts.flatMap Http.Attempt.requests

/-- A call that sends nothing. -/
def silent (outcome : Except Failure α) (rest : List Http.Reply) : Call α :=
  ⟨outcome, [], [], [], rest⟩

/-- Continues with what a call returned; a failure ends the call. -/
def bind (call : Call α) (next : α → List Http.Reply → Call β) : Call β :=
  match call.outcome with
  | .error failure => { call with outcome := .error failure }
  | .ok value =>
      let further := next value call.rest
      { further with
        attempts := call.attempts ++ further.attempts
        waits := call.waits ++ further.waits
        records := call.records ++ further.records }

/-- Makes a record after a call that returned something. -/
def log (call : Call α) (record : α → Log.Record) : Call α :=
  match call.outcome with
  | .error _ => call
  | .ok value => { call with records := call.records ++ [record value] }

/-- Reads what a call returned. -/
def andThen (call : Call α) (read : α → Except Failure β) : Call β :=
  { call with outcome := call.outcome.bind read }

end Call

/-! ## Clients -/

structure Client where
  /-- The root of the service, without slashes at its end. -/
  baseUrl : String
  authorization : Option Authorization
  defaultHeaders : Fields CodeString
  attempts : Nat
deriving Repr, DecidableEq

namespace Client

def loggerName : String :=
  "rest_template_bridge.adapters.api.rest_template.RestTemplateClient"

/-- A client that makes at least one attempt. -/
def make (baseUrl : String) (authorization : Option Authorization)
    (defaultHeaders : Fields CodeString) (attempts : Int) : Except Failure Client :=
  if attempts < 1 then .error .noAttempts
  else .ok ⟨Text.dropEndSlashes baseUrl, authorization, defaultHeaders, attempts.toNat⟩

/-- The journal of a client that no adapter uses. -/
def ownJournal (client : Client) : Journal :=
  ⟨loggerName, [("base_url", .text client.baseUrl)], .empty⟩

/-! ### The request -/

/-- The headers that every request has: the authorization replaces a default header of
exactly its name. -/
def headers (client : Client) : Http.Headers :=
  let headers : Http.Headers :=
    Fields.override [("Accept", "application/json")] client.defaultHeaders
  match client.authorization with
  | none => headers
  | some authorization => authorization.apply headers

/-- The credentials in a URL take the place of every authorization header. -/
def withUrlCredentials (url : Url) (headers : Http.Headers) : Http.Headers :=
  let parts := Text.cutAt ':' url.userinfo
  let username := Text.Percent.decode (String.ofList parts.1)
  let password := Text.Percent.decode (String.ofList parts.2)
  if username = "" && password = "" then headers
  else Http.Headers.set Authorization.headerName
    (Authorization.basic username password).header headers

/-- The headers that a connection adds itself. -/
def ambientHeaders : Http.Headers :=
  [("Accept", "*/*")]

/-- The request for a resource. -/
def request (client : Client) (resource : String) : Except Http.Failure Http.Request := do
  let base ← (do Url.toBase (← Url.parse client.baseUrl.toList)).mapError Http.Failure.invalidUrl
  if !Http.Headers.areEncodable client.headers then
    .error .headerEncoding
  else
    let url ← (base.below resource.toList).mapError Http.Failure.invalidUrl
    return ⟨url, withUrlCredentials url (Http.Headers.update client.headers ambientHeaders)⟩

/-! ### Sending -/

def methodExtras (resource : String) : Fields Json.Value :=
  [("method", .text "GET"), ("url", .text resource)]

/-- Sends the request for a resource. -/
def fetch (client : Client) (journal : Journal) (resource : String)
    (replies : List Http.Reply) : Call Http.Response :=
  let extras := methodExtras resource
  let sent := journal.record Log.Level.debug "HTTP request" extras
  match client.request resource with
  | .error failure =>
      ⟨.error (match failure with
        | .invalidUrl error => .invalidUrl error
        | .headerEncoding => .headerEncoding
        | .fault _ => .reported .noConnection), [], [], [sent], replies⟩
  | .ok request =>
      let exchange := Http.exchange request client.attempts replies
      let call := fun outcome records =>
        Call.mk outcome exchange.attempts exchange.waits (sent :: records) exchange.rest
      match exchange.outcome with
      | .ok response =>
          call (.ok response) [journal.record Log.Level.debug "HTTP response"
            (extras ++ [("status_code", .int response.status)])]
      | .error (.fault fault) =>
          call (.error (.reported .noConnection))
            [journal.record Log.Level.error "HTTP transport failure"
              (extras ++ [("error", .text fault.text)])]
      | .error (.invalidUrl error) => call (.error (.invalidUrl error)) []
      | .error .headerEncoding => call (.error .headerEncoding) []

/-! ### Reading responses -/

def format {α : Type} (error : FormatError) : Except Failure α :=
  .error (.reported (.format error))

def checkStatus (response : Http.Response) : Except Failure Unit :=
  if response.status = 401 then .error (.reported .rejected)
  else if 400 ≤ response.status then
    .error (.reported (.service response.status response.url.decodedPath))
  else .ok ()

section

variable [Runtime]

/-- The JSON document in a body. -/
def document (response : Http.Response) : Except Failure Json.Value :=
  match Json.readBytes Runtime.readingLevels response.body with
  | .ok value => .ok value
  | .error .malformed => format (.invalidJson response.url.decodedPath)
  | .error .tooDeep => .error .tooDeep

/-- The members of the document in a response of an operation. -/
def payload (operation : String) (response : Http.Response) : Except Failure Json.Members := do
  checkStatus response
  match (← document response).fields? with
  | some fields => return fields
  | none => format (.notObject operation)

def readCount (response : Http.Response) : Except Failure Nat := do
  match Fields.get? (← payload "count" response) "count" with
  | none => format .missingCount
  | some value =>
      match Count.ofValue value with
      | .ok count => return count
      | .error error => format (.count error)

def readRecord (response : Http.Response) : Except Failure Json.Members := do
  match (Fields.get? (← payload "retrieve" response) "record").bind Json.Value.fields? with
  | some fields => return fields
  | none => format .missingRecord

/-- The fields of each item, or the index of the first item that is no object. -/
def objects (index : Nat) : List Json.Value → Except Nat (List Json.Members)
  | [] => .ok []
  | item :: items =>
      match item.fields? with
      | none => .error index
      | some fields => (objects (index + 1) items).map (fields :: ·)

def readRecords (response : Http.Response) : Except Failure (List Json.Members) := do
  match (Fields.get? (← payload "search" response) "records").bind Json.Value.items? with
  | none => format .missingRecords
  | some items =>
      match objects 0 items with
      | .ok records => return records
      | .error index => format (.recordNotObject index)

/-! ### The calls -/

/-- The status with which the service answers a check of the credentials. -/
def checkCredentials (client : Client) (journal : Journal) (replies : List Http.Reply) :
    Call Nat :=
  (client.fetch journal checkPath replies).andThen fun response => .ok response.status

def fetchCount (client : Client) (journal : Journal) (escapedQuery : String)
    (replies : List Http.Reply) : Call Nat :=
  (client.fetch journal (countResource escapedQuery) replies).andThen readCount

def fetchRecord (client : Client) (journal : Journal) (recordId : String)
    (replies : List Http.Reply) : Call Json.Members :=
  (client.fetch journal (recordResource recordId) replies).andThen readRecord

def searchRecords (client : Client) (journal : Journal) (escapedQuery : String)
    (replies : List Http.Reply) : Call (List Json.Members) :=
  (client.fetch journal (searchResource escapedQuery) replies).andThen readRecords

end

end Client

end QueryBridge.Service
