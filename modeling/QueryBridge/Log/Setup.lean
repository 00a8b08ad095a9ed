import QueryBridge.Log.Hub

/-!
# Setups

A program logs over time through the handles that it has made: it makes loggers and redactors,
derives handles from others, changes the secrets of redactors, and logs.  Handles and redactors
are told apart by the order in which they were made; a step that names one which has not been
made does nothing.
-/

namespace QueryBridge.Log

/-- What a program does with loggers, handles and redactors. -/
inductive Step where
  | configure (environment : Option String) (level : Option Level.Choice) (force : Bool)
  | getLogger (environment : Option String) (name : String) (level : Option Level.Choice)
      (extras : Fields Json.Value)
  | rawLogger (name : String)
  | bind (handle : Nat) (extras : Fields Json.Value)
  | bindRedactor (handle redactor : Nat)
  | newRedactor (secrets : List CodeString)
  | addSecrets (redactor : Nat) (secrets : List CodeString)
  | clearSecrets (redactor : Nat)
  | log (handle : Nat) (message : CodeString) (level : Level) (extras : Fields Json.Value)
deriving Repr

/-- The hub, with the handles in the order in which they were made. -/
structure Setup where
  hub : Hub
  handles : List Handle
deriving Repr

/-- The list with what is made from its member at the index. -/
def derive {α : Type} (items : List α) (index : Nat) (make : α → α) : List α :=
  items ++ (items[index]?.map make).toList

namespace Setup

def initial : Setup := ⟨.initial, []⟩

/-- The setup that a step leaves. -/
def perform (setup : Setup) : Step → Setup
  | .configure environment level force =>
      { setup with hub := setup.hub.configure environment level force }
  | .getLogger environment name level extras =>
      let made := setup.hub.getLogger environment name level extras
      ⟨made.1, setup.handles ++ [made.2]⟩
  | .rawLogger name =>
      let made := setup.hub.rawLogger name
      ⟨made.1, setup.handles ++ [made.2]⟩
  | .bind handle extras =>
      { setup with handles := derive setup.handles handle (·.bind extras) }
  | .bindRedactor handle redactor =>
      { setup with handles := derive setup.handles handle (·.bindRedactor redactor) }
  | .newRedactor secrets => { setup with hub := (setup.hub.addRedactor secrets).1 }
  | .addSecrets redactor secrets =>
      { setup with hub := setup.hub.updateRedactor redactor (·.add secrets) }
  | .clearSecrets redactor =>
      { setup with hub := setup.hub.updateRedactor redactor fun _ => .empty }
  | .log .. => setup

/-- The records that a step makes. -/
def records (setup : Setup) : Step → Except Hub.Clash (List Record)
  | .log handle message level extras =>
      match setup.handles[handle]? with
      | none => .ok []
      | some handle => setup.hub.log handle message level extras
  | _ => .ok []

/-- The setup after the steps in order. -/
def after (setup : Setup) (steps : List Step) : Setup :=
  steps.foldl perform setup

end Setup

end QueryBridge.Log
