import QueryBridge.Property
import QueryBridge.Record
import QueryBridge.Registry
import QueryBridge.Service.Client

/-!
# The adapter

An adapter takes requests of a bridge host and turns each into one call of the service.
It is connected once its credentials have been accepted; the client of the last
successful connection stays in use until another one succeeds.

Every operation first checks the structure, the connection and the query template, so
that an invalid request sends nothing.
-/

namespace QueryBridge.Bridge

open QueryBridge.Service (Call Client Journal)

/-- A request of the host. -/
structure Request where
  structureName : String
  query : String
  parameters : Template.Parameters
  fields : List CodeString
deriving Repr

structure Adapter where
  /-- The root of the service, without slashes at its end. -/
  endpoint : String
  registry : Registry
  attempts : Int
  /-- Credentials that are used in place of the properties. -/
  override : Option Credentials
  properties : PropertyMap
  redactor : Log.Redactor
  client : Option Client
deriving Repr

namespace Adapter

def version : String := "1.0.0"

def loggerName : String := "rest_template_bridge.adapters.rest_template"

def defaultStructures : List String := ["FirstStructure", "SecondStructure"]

def make (endpoint : String) (registry : Registry) (attempts : Int)
    (override : Option Credentials) : Adapter :=
  { endpoint := Text.dropEndSlashes endpoint
    registry := registry
    attempts := attempts
    override := override
    properties := PropertyMap.credentials
    redactor := .empty
    client := none }

def isReady (adapter : Adapter) : Bool :=
  adapter.client.isSome

def setProperties (adapter : Adapter) (values : List (String × Option CodeString)) : Adapter :=
  { adapter with properties := adapter.properties.setValues values }

def clearSecrets (adapter : Adapter) : Adapter :=
  { adapter with redactor := .empty }

/-- A description of the state that holds no credentials. -/
def describe (adapter : Adapter) : String :=
  "RestTemplateAdapter(endpoint=" ++ Text.quoted adapter.endpoint ++ ", structures=[" ++
    String.intercalate ", " (adapter.registry.names.map Text.quoted) ++ "], ready=" ++
    (if adapter.isReady then "True" else "False") ++ ")"

/-- Where the adapter's records go. -/
def journal (adapter : Adapter) : Journal :=
  ⟨loggerName, [("adapter", .text adapterName)], adapter.redactor⟩

/-! ## Connecting -/

/-- The credentials that a connection would use. -/
def credentials (adapter : Adapter) : Except Error Credentials :=
  match adapter.override with
  | some credentials => .ok credentials
  | none =>
      if adapter.properties.missing.isEmpty then
        .ok (.basic ((adapter.properties.value? PropertyMap.usernameKey).getD "")
          ((adapter.properties.value? PropertyMap.passwordKey).getD ""))
      else .error (.missingProperties adapter.properties.missing)

/-- The authorization that a connection would use. -/
def authorization (adapter : Adapter) : Except Failure Authorization :=
  match adapter.credentials with
  | .error error => .error (.reported error)
  | .ok credentials => credentials.authorization?.elim (.error .headerEncoding) .ok

/-- The service refuses credentials with the status 401. -/
def checkRefused (status : Nat) : Except Failure Nat :=
  if status = 401 then .error (.reported .refused) else .ok status

/-- Checks credentials that are available, and the client that has them. -/
def connectWith (adapter : Adapter) (authorization : Authorization)
    (replies : List Http.Reply) : Call Client :=
  let journal := adapter.journal
  match Client.make adapter.endpoint (some authorization) [] adapter.attempts with
  | .error failure => Call.silent (.error failure) replies
  | .ok client =>
      let started := journal.record Log.Level.debug "Testing the authentication credentials"
        [("url", .text adapter.endpoint)]
      let call := (client.checkCredentials journal replies).andThen checkRefused
      let call := call.log fun status =>
        journal.record Log.Level.info "Adapter initialized" [("status_code", .int status)]
      { call.andThen fun _ => .ok client with records := started :: call.records }

/-- Connects with the credentials as they stand. -/
def connect (adapter : Adapter) (replies : List Http.Reply) : Adapter × Call Unit :=
  match adapter.authorization with
  | .error failure => (adapter, Call.silent (.error failure) replies)
  | .ok authorization =>
      let adapter := { adapter with redactor := adapter.redactor.add authorization.secrets }
      let call := adapter.connectWith authorization replies
      let adapter := match call.outcome with
        | .ok client => { adapter with client := some client }
        | .error _ => adapter
      (adapter, call.andThen fun _ => .ok ())

/-- The outcome of a connection for display. -/
structure Verification where
  success : Bool
  message : String
  endpoint : String
  structures : List String
deriving Repr

/-- Connects and tells how it went; a reported error is not a failure of this call. -/
def verify (adapter : Adapter) (replies : List Http.Reply) : Adapter × Call Verification :=
  let connected := adapter.connect replies
  let result := fun success message =>
    Verification.mk success message adapter.endpoint adapter.registry.names
  let outcome : Except Failure Verification := match connected.2.outcome with
    | .ok () => .ok (result true "REST Service reachable and credentials accepted.")
    | .error (.reported error) =>
        .ok (result false ("REST Service verification failed: " ++ error.message))
    | .error failure => .error failure
  (connected.1, { connected.2 with outcome := outcome })

/-! ## Operations -/

/-- The client, the resolved query and the journal of an operation's own records. -/
structure Prepared where
  client : Client
  query : String
  journal : Journal

/-- The checks that come before every operation. -/
def prepare (adapter : Adapter) (request : Request) (operation : String) :
    Except Error Prepared :=
  if !adapter.registry.contains request.structureName then
    .error (.invalidStructure request.structureName)
  else
    match adapter.client with
    | none => .error .notReady
    | some client =>
        match Template.resolve request.query request.parameters with
        | .error unbound => .error (.request (.unbound unbound))
        | .ok query =>
            .ok ⟨client, query, adapter.journal.bind
              [("operation", .text operation), ("structure", .text request.structureName)]⟩

/-- Runs an operation after its checks, with the record that they made. -/
def operate {α : Type} (adapter : Adapter) (request : Request) (operation : String)
    (replies : List Http.Reply) (run : Prepared → List Http.Reply → Call α) : Call α :=
  match adapter.prepare request operation with
  | .error error => Call.silent (.error (.reported error)) replies
  | .ok prepared =>
      let resolved := prepared.journal.record Log.Level.debug "Resolved query"
        [("query", .text prepared.query)]
      let call := run prepared replies
      { call with records := resolved :: call.records }

section

variable [Runtime]

/-- The number of records that match the query. -/
def count (adapter : Adapter) (request : Request) (replies : List Http.Reply) : Call Count :=
  adapter.operate request "count" replies fun prepared replies =>
    let call := prepared.client.fetchCount adapter.journal (Query.escape prepared.query) replies
    let call := call.log fun value =>
      prepared.journal.record Log.Level.debug "Count resolved" [("result", .int value)]
    call.andThen fun value => .ok ⟨value⟩

def recordIdKey : String := "id"

/-- Whether there is an id is decided by the template, its value by the resolved query. -/
def recordId (template resolved : String) : Except RequestError String :=
  if (Query.find? template recordIdKey).isNone then .error .missingId
  else
    match Query.find? resolved recordIdKey with
    | none => .error .emptyId
    | some value => if value = "" then .error .emptyId else .ok value

/-- The record with the id that the query names. -/
def retrieve (adapter : Adapter) (request : Request) (replies : List Http.Reply) :
    Call Record :=
  adapter.operate request "retrieve" replies fun prepared replies =>
    match recordId request.query prepared.query with
    | .error error => Call.silent (.error (.reported (.request error))) replies
    | .ok id =>
        let call := (prepared.client.fetchRecord adapter.journal id replies).log fun _ =>
          prepared.journal.record Log.Level.debug "Record retrieved" [("record_id", .text id)]
        call.andThen fun payload =>
          (Record.ofPayloadWithin? Runtime.writingLevels payload request.fields).elim
            (.error .tooDeep) .ok

/-- The records that match the query. -/
def search (adapter : Adapter) (request : Request) (replies : List Http.Reply) :
    Call RecordList :=
  adapter.operate request "search" replies fun prepared replies =>
    let call := prepared.client.searchRecords adapter.journal (Query.escape prepared.query) replies
    let call := call.andThen fun payloads =>
      (RecordList.ofPayloadsWithin? Runtime.writingLevels payloads request.fields).elim
        (.error .tooDeep) .ok
    call.log fun page =>
      prepared.journal.record Log.Level.debug "Search completed"
        [("result", .text (toString page.size))]

end

end Adapter

end QueryBridge.Bridge
