import QueryBridge.Bridge.Adapter
import QueryBridge.Cli.Options
import QueryBridge.Files.Tree

/-!
# Commands

A command line has options for the whole run, the name of a command, and the command's
own arguments.  Options and name are read first; the command's own arguments are read
once the settings are known.
-/

namespace QueryBridge.Cli

/-! ## The whole run -/

inductive CommandName where
  | structures
  | verify
  | count
  | retrieve
  | search
deriving Repr, DecidableEq

def CommandName.ofText? : String → Option CommandName
  | "structures" => some .structures
  | "verify" => some .verify
  | "count" => some .count
  | "retrieve" => some .retrieve
  | "search" => some .search
  | _ => none

/-- The options for the whole run, the command, and its own arguments. -/
structure Invocation where
  config : Option String
  structures : Option String
  endpoint : Option String
  logLevel : Option String
  command : CommandName
  arguments : List String
deriving Repr, DecidableEq

namespace Invocation

def options : List OptionName :=
  [OptionName.config, OptionName.structures, OptionName.endpoint, OptionName.logLevel]

/-- A path on the command line must lead to a file. -/
def checkFile (surroundings : Surroundings) : Option String → Except Stop Unit
  | none => .ok ()
  | some path =>
      match surroundings.find? path with
      | some (.file _) => .ok ()
      | some .directory | none => .error (.usage (.noFile path))

def parse (surroundings : Surroundings) (arguments : List String) :
    Except Stop Invocation := do
  let parsed ← Arguments.inFront options arguments
  let config := parsed.value? .config
  let structures := parsed.value? .structures
  checkFile surroundings config
  checkFile surroundings structures
  match parsed.others with
  | [] => throw (.usage .missingCommand)
  | name :: rest =>
      match CommandName.ofText? name with
      | none => throw (.usage (.unknownCommand name))
      | some command =>
          return ⟨config, structures, parsed.value? .endpoint, parsed.value? .logLevel, command,
            rest⟩

end Invocation

/-! ## Commands -/

/-- What an operation is asked for, with its parameters as they are written. -/
structure Inquiry where
  structureName : String
  query : String
  parameters : List String
  fields : List String
deriving Repr, DecidableEq

inductive Command where
  | listStructures
  | verify
  | count (inquiry : Inquiry)
  | retrieve (inquiry : Inquiry)
  | search (inquiry : Inquiry)
deriving Repr, DecidableEq

namespace Inquiry

/-- Reads the arguments of an operation that has the given options besides its own. -/
def parse (others : List OptionName) (arguments : List String) : Except Stop Inquiry := do
  let parsed ← Arguments.ofCommand
    ([OptionName.structureName, OptionName.query, OptionName.parameter] ++ others) arguments
  match parsed.value? .structureName with
  | none => throw (.usage .missingStructure)
  | some name =>
      return ⟨name, (parsed.value? .query).getD "", parsed.values .parameter,
        parsed.values .field⟩

/-- The name and the value of a parameter.  Blanks around the name do not count; the
value is all that follows the first equals sign. -/
def parameter (text : String) : Except UsageError (String × String) :=
  if !text.toList.contains '=' then .error (.parameterForm text)
  else
    let parts := Text.cutAt '=' text.toList
    let name := String.ofList (Text.trimChars parts.1)
    if name = "" then .error (.parameterName text)
    else .ok (name, String.ofList parts.2)

/-- The request of an inquiry; the last value of a parameter counts. -/
def request (inquiry : Inquiry) : Except UsageError Bridge.Request := do
  let parameters ← inquiry.parameters.mapM parameter
  return ⟨inquiry.structureName, inquiry.query, Fields.ofList parameters,
    inquiry.fields.map CodeString.text⟩

end Inquiry

namespace Command

/-- Reads the arguments of the group of commands about structures. -/
def parseStructures (arguments : List String) : Except Stop Command := do
  let parsed ← Arguments.inFront [] arguments
  match parsed.others with
  | [] => throw (.usage .missingCommand)
  | name :: rest =>
      if name = "list" then
        let _ ← Arguments.ofCommand [] rest
        return .listStructures
      else throw (.usage (.unknownCommand name))

def parse (name : CommandName) (arguments : List String) : Except Stop Command :=
  match name with
  | .structures => parseStructures arguments
  | .verify => (Arguments.ofCommand [] arguments).map fun _ => .verify
  | .count => (Inquiry.parse [] arguments).map .count
  | .retrieve => (Inquiry.parse [OptionName.field] arguments).map .retrieve
  | .search => (Inquiry.parse [OptionName.field] arguments).map .search

end Command

end QueryBridge.Cli
