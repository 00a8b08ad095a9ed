import QueryBridge.Text.Case

/-!
# Levels

The importance of a log entry is an integer.  Some levels have names; a name is
recognised in any case.  Where no usable level is given, the level comes from the
environment, and else it is `info`.
-/

namespace QueryBridge.Log

abbrev Level := Int

namespace Level

def debug : Level := 10

def info : Level := 20

def warning : Level := 30

def error : Level := 40

def names : List (String × Level) :=
  [("CRITICAL", 50), ("FATAL", 50), ("ERROR", error), ("WARN", warning), ("WARNING", warning),
    ("INFO", info), ("DEBUG", debug), ("NOTSET", 0)]

/-- The label of a level in a line. -/
def label (level : Level) : String :=
  if level = 50 then "CRITICAL"
  else if level = error then "ERROR"
  else if level = warning then "WARNING"
  else if level = info then "INFO"
  else if level = debug then "DEBUG"
  else if level = 0 then "NOTSET"
  else "Level " ++ toString level

/-- A level as callers give it. -/
inductive Choice where
  | number (level : Level)
  | name (name : String)
deriving Repr, DecidableEq

def ofName (name : String) : Level :=
  (names.lookup (String.ofList (name.toList.map Text.asciiCapital))).getD info

/-- The level that is meant; an empty name counts as none. -/
def resolve (environment : Option String) : Option Choice → Level
  | some (.number level) => level
  | some (.name name) => if name = "" then fromEnvironment else ofName name
  | none => fromEnvironment
where
  fromEnvironment : Level :=
    match environment with
    | none => info
    | some name => if name = "" then info else ofName name

end Level

end QueryBridge.Log
