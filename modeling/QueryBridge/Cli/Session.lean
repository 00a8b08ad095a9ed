import QueryBridge.Cli.Command
import QueryBridge.Log.Hub
import QueryBridge.Registry.Document
import QueryBridge.Settings

/-!
# Runs of the command line

A run loads the settings and the registry, and then performs one command with a fresh
adapter.  Results are written as JSON documents, errors of the bridge as one message
with their label.  An error of usage ends the run with the exit code 2, any other error
with 1.
-/

namespace QueryBridge.Cli

open QueryBridge.Bridge (Adapter Failure)
open QueryBridge.Service (Call)

/-- What ends a run without a message of its own. -/
inductive Escape where
  | settings (error : Settings.Error)
  | structures (error : Registry.LoadError)
  | call (failure : Failure)
  /-- The result holds a text that cannot be encoded. -/
  | encoding
deriving Repr

def Escape.message : Escape → String
  | .settings error => error.message
  | .structures error => error.message
  | .call failure => failure.message
  | .encoding => "The result holds a text that cannot be encoded."

/-- What a run does. -/
structure Session where
  exitCode : Nat
  output : String
  /-- The messages among the errors, apart from the log. -/
  errors : List String
  records : List Log.Record
  requests : List Http.Request
  escape : Option Escape
deriving Repr

namespace Session

/-- A run that writes nothing. -/
def silent (exitCode : Nat) : Session :=
  ⟨exitCode, "", [], [], [], none⟩

def stopped : Stop → Session
  | .help => silent 0
  | .usage error => { silent 2 with errors := [error.message] }

def refused (message : String) : Session :=
  { silent 1 with errors := [message] }

def escaped (escape : Escape) : Session :=
  { silent 1 with escape := some escape }

def printed (exitCode : Nat) (output : String) : Session :=
  { silent exitCode with output := output }

end Session

/-! ## Preparation -/

/-- What the commands of a run share. -/
structure Context where
  settings : Settings
  registry : Registry
  hub : Log.Hub
deriving Repr

def logLevelVariable : String := "REST_BRIDGE_LOG_LEVEL"

/-- The logging of a run; a level on the command line is set in any case. -/
def configureLogging (surroundings : Surroundings) (level : Option String) : Log.Hub :=
  Log.Hub.initial.configure (surroundings.valueOf? logLevelVariable)
    (level.map Log.Level.Choice.name) level.isSome

/-- The settings of a run.  An endpoint on the command line overrides theirs. -/
def loadSettings [Runtime] (surroundings : Surroundings) (invocation : Invocation) :
    Except Settings.Error Settings := do
  let settings ← Settings.load surroundings (invocation.config.map Path.ofText) false
  return { settings with
    endpoint := (invocation.endpoint.filter (· != "")).getD settings.endpoint }

/-- The registry of a run: from the given file, from the settings, or the default. -/
def loadRegistry [Runtime] (surroundings : Surroundings) (invocation : Invocation)
    (settings : Settings) : Except Registry.LoadError Registry :=
  match invocation.structures with
  | some text =>
      let path := Path.ofText text
      Registry.ofFile path.toText (surroundings.content? path)
  | none =>
      if settings.structures.isEmpty then .ok Registry.default
      else (Registry.ofNames settings.structures).mapError .name

/-- Prepares a run, or ends it. -/
def prepare [Runtime] (surroundings : Surroundings) (invocation : Invocation) :
    Except Session Context := do
  let hub := configureLogging surroundings invocation.logLevel
  let settings ← (loadSettings surroundings invocation).mapError fun error =>
    Session.escaped (.settings error)
  let registry ← (loadRegistry surroundings invocation settings).mapError fun error =>
    if error.isReported then Session.refused error.message
    else Session.escaped (.structures error)
  return ⟨settings, registry, hub⟩

namespace Context

/-- A fresh adapter with the settings. -/
def adapter (context : Context) : Adapter :=
  (Adapter.make context.settings.endpoint context.registry 1 none).setProperties
    (context.settings.properties.map fun entry => (entry.1, some entry.2))

/-- The records that the logging of the run shows. -/
def shown (context : Context) (records : List Log.Record) : List Log.Record :=
  records.filter fun record => context.hub.isEnabled record.logger record.level

/-! ## Results -/

/-- The session of a call, which shows what the call returned. -/
def report {α : Type} (context : Context) (call : Call α) (view : α → Session) : Session :=
  let session := match call.outcome with
    | .ok value => view value
    | .error (.reported error) => Session.refused (error.label ++ ": " ++ error.message)
    | .error failure => Session.escaped (.call failure)
  { session with records := context.shown call.records, requests := call.requests }

/-- The output of a document. -/
def document (value : Json.Value) : Session :=
  if value.isWellFormed then Session.printed 0 (value.render .indented ++ "\n")
  else Session.escaped .encoding

/-- Connects, and then runs an operation. -/
def operate {α : Type} (context : Context)
    (operation : Adapter → List Http.Reply → Call α) (replies : List Http.Reply) : Call α :=
  let connected := context.adapter.connect replies
  connected.2.bind fun _ replies => operation connected.1 replies

def listLine (descriptor : Descriptor) : String :=
  descriptor.name ++
    (if descriptor.description = "" then "" else "  " ++ descriptor.description) ++ "\n"

def list (registry : Registry) : String :=
  if registry.entries.isEmpty then "No structures are configured.\n"
  else String.join (registry.entries.map listLine)

/-! ## Commands -/

/-- Runs an operation on the request of an inquiry, if its parameters are usable. -/
def inquire {α : Type} (context : Context) (inquiry : Inquiry)
    (operation : Adapter → Bridge.Request → List Http.Reply → Call α)
    (toValue : α → Json.Value) (replies : List Http.Reply) : Session :=
  match inquiry.request with
  | .error error => Session.stopped (.usage error)
  | .ok request =>
      context.report
        (context.operate (fun adapter replies => operation adapter request replies) replies)
        fun value => document (toValue value)

def perform [Runtime] (context : Context) (command : Command) (replies : List Http.Reply) :
    Session :=
  match command with
  | .listStructures => Session.printed 0 (list context.registry)
  | .verify =>
      context.report (context.adapter.verify replies).2 fun verification =>
        Session.printed (if verification.success then 0 else 1) (verification.message ++ "\n")
  | .count inquiry => context.inquire inquiry Adapter.count
      (fun count => .object [("count", .int count.value)]) replies
  | .retrieve inquiry => context.inquire inquiry Adapter.retrieve
      (fun record => .object [("record", .object record.toPayload)]) replies
  | .search inquiry => context.inquire inquiry Adapter.search RecordList.toValue replies

end Context

/-- Runs a command line against the replies of the service. -/
def run [Runtime] (surroundings : Surroundings) (arguments : List String)
    (replies : List Http.Reply) : Session :=
  match Invocation.parse surroundings arguments with
  | .error stop => Session.stopped stop
  | .ok invocation =>
      match prepare surroundings invocation with
      | .error session => session
      | .ok context =>
          match Command.parse invocation.command invocation.arguments with
          | .error stop => Session.stopped stop
          | .ok command => context.perform command replies

end QueryBridge.Cli
