import QueryBridge.Cli.Usage
import QueryBridge.Text.Split

/-!
# Options on the command line

An option has a long name behind two dashes and may have a letter behind one.  Its value
follows as the next argument; behind the long name it may also follow an equals sign,
and behind the letter directly.  Two dashes alone end the options.
-/

namespace QueryBridge.Cli

/-- The meaning of an option. -/
inductive Meaning where
  | help
  | config
  | structures
  | endpoint
  | logLevel
  | structureName
  | query
  | parameter
  | field
deriving Repr, DecidableEq

/-- All options but that for help take a value. -/
def Meaning.takesValue : Meaning → Bool
  | .help => false
  | _ => true

structure OptionName where
  meaning : Meaning
  long : String
  short : Option Char
deriving Repr, DecidableEq

namespace OptionName

def help : OptionName := ⟨.help, "--help", none⟩

def config : OptionName := ⟨.config, "--config", some 'c'⟩

def structures : OptionName := ⟨.structures, "--structures", some 's'⟩

def endpoint : OptionName := ⟨.endpoint, "--endpoint", some 'e'⟩

def logLevel : OptionName := ⟨.logLevel, "--log-level", none⟩

def structureName : OptionName := ⟨.structureName, "--structure", some 'S'⟩

def query : OptionName := ⟨.query, "--query", some 'q'⟩

def parameter : OptionName := ⟨.parameter, "--param", some 'p'⟩

def field : OptionName := ⟨.field, "--field", some 'f'⟩

end OptionName

/-- An option that was given, with its value. -/
structure Given where
  meaning : Meaning
  value : String
deriving Repr, DecidableEq

/-- What an argument holds: a whole option, or one that waits for its value. -/
inductive Read where
  | whole (given : Given)
  | waiting (meaning : Meaning)
deriving Repr, DecidableEq

/-- Reads an argument whose part in front of an equals sign is a long name. -/
def readLong (name : OptionName) (value : Option String) : Except UsageError Read :=
  match name.meaning.takesValue, value with
  | true, some value => .ok (.whole ⟨name.meaning, value⟩)
  | true, none => .ok (.waiting name.meaning)
  | false, none => .ok (.whole ⟨name.meaning, ""⟩)
  | false, some _ => .error (.unexpectedValue name.long)

/-- Reads what follows one dash. -/
def readShort (names : List OptionName) : List Char → Except UsageError Read
  | letter :: value =>
      match names.find? fun name => name.short == some letter with
      | none => .error (.unknownOption (String.ofList ['-', letter]))
      | some name =>
          if value.isEmpty then .ok (.waiting name.meaning)
          else .ok (.whole ⟨name.meaning, String.ofList value⟩)
  | [] => .error (.unknownOption "-")

/-- Reads an argument that begins with a dash. -/
def readOption (names : List OptionName) (argument : String) : Except UsageError Read :=
  let chars := argument.toList
  let parts := Text.cutAt '=' chars
  let value := if chars.contains '=' then some (String.ofList parts.2) else none
  match names.find? fun name => name.long.toList == parts.1 with
  | some name => readLong name value
  | none =>
      match chars with
      | '-' :: '-' :: _ => .error (.unknownOption (String.ofList parts.1))
      | _ => readShort names chars.tail

/-- Whether an argument is meant as an option; a dash alone is not. -/
def isOption (argument : String) : Bool :=
  match argument.toList with
  | '-' :: _ :: _ => true
  | _ => false

/-- The options among arguments, in order, and the other arguments. -/
structure Arguments where
  options : List Given
  others : List String
deriving Repr, DecidableEq

namespace Arguments

/-- Splits arguments.  Where options stand in front only, the first other argument ends
them. -/
def parse (names : List OptionName) (inFront : Bool) :
    List String → Except UsageError Arguments
  | [] => .ok ⟨[], []⟩
  | argument :: rest =>
      if argument = "--" then .ok ⟨[], rest⟩
      else if isOption argument then
        match readOption names argument with
        | .error error => .error error
        | .ok (.whole given) => do
            let parsed ← parse names inFront rest
            return ⟨given :: parsed.options, parsed.others⟩
        | .ok (.waiting meaning) =>
            match rest with
            | [] => .error (.missingValue argument)
            | value :: rest => do
                let parsed ← parse names inFront rest
                return ⟨⟨meaning, value⟩ :: parsed.options, parsed.others⟩
      else if inFront then .ok ⟨[], argument :: rest⟩
      else do
        let parsed ← parse names inFront rest
        return ⟨parsed.options, argument :: parsed.others⟩

/-- The arguments of a command that takes options alone, unless help is asked for. -/
def ofCommand (names : List OptionName) (arguments : List String) :
    Except Stop Arguments := do
  let parsed ← (parse (.help :: names) false arguments).mapError .usage
  if parsed.options.any fun given => given.meaning == .help then throw .help
  match parsed.others with
  | [] => return parsed
  | other :: _ => throw (.usage (.extraArgument other))

/-- The options in front of a command's name, unless help is asked for. -/
def inFront (names : List OptionName) (arguments : List String) : Except Stop Arguments := do
  let parsed ← (parse (.help :: names) true arguments).mapError .usage
  if parsed.options.any fun given => given.meaning == .help then throw .help
  return parsed

/-- All values of an option, in order. -/
def values (arguments : Arguments) (meaning : Meaning) : List String :=
  (arguments.options.filter fun given => given.meaning == meaning).map Given.value

/-- The value of an option; the last one counts. -/
def value? (arguments : Arguments) (meaning : Meaning) : Option String :=
  (arguments.values meaning).getLast?

end Arguments

end QueryBridge.Cli
