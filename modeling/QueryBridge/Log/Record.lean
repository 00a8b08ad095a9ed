import QueryBridge.Json.Display
import QueryBridge.Json.Writer
import QueryBridge.Log.Level
import QueryBridge.Log.Redaction

/-!
# Log records and their lines

A record has a level, the name of its logger, a message, and extra values under
names.  Its line is the message behind level and logger, followed by the extras as
`name=value`: first those that every reader looks for, in a fixed order, then the
others in the order of their names.  Extras that are null or whose name is reserved
or begins with an underscore are not shown.
-/

namespace QueryBridge.Log

structure Record where
  level : Level
  logger : String
  message : CodeString
  extras : Fields Json.Value
deriving Repr

/-! ## The extras that a line shows -/

/-- The names that a record's own attributes have. -/
def attributeNames : List String :=
  ["name", "msg", "args", "levelname", "levelno", "pathname", "filename", "module", "exc_info",
    "exc_text", "stack_info", "lineno", "funcName", "created", "msecs", "relativeCreated",
    "thread", "threadName", "processName", "process", "message", "asctime"]

def isReserved (name : String) : Bool :=
  attributeNames.contains name || name == "taskName"

/-- The names that are shown first. -/
def focusOrder : List String :=
  ["operation", "structure", "method", "url", "status_code", "attempt", "error"]

def isShown (extra : String × Json.Value) : Bool :=
  !isReserved extra.1 && !extra.1.startsWith "_" &&
    match extra.2 with
    | .null => false
    | _ => true

def sortByName {α : Type} (fields : Fields α) : Fields α :=
  fields.mergeSort fun first second => first.1 ≤ second.1

/-- The extras that are shown, in the order of the line. -/
def shownExtras (extras : Fields Json.Value) : Fields Json.Value :=
  let shown := extras.filter isShown
  let focus := focusOrder.filterMap fun name =>
    (Fields.get? shown name).map fun value => (name, value)
  focus ++ sortByName (shown.filter fun extra => !focusOrder.contains extra.1)

/-! ## The line -/

mutual

/-- An object is shown as a JSON document, an array as its items between brackets. -/
def showValue : Json.Value → CodeString
  | .array items => "[" ++ CodeString.join ", " (showValues items) ++ "]"
  | .object fields => .ofCodes (((Json.Value.object fields).write .spaced 0).map Json.Sign.code)
  | value => value.display

def showValues : List Json.Value → List CodeString
  | [] => []
  | item :: items => showValue item :: showValues items

end

def showExtra (extra : String × Json.Value) : CodeString :=
  extra.1 ++ "=" ++ showValue extra.2

namespace Record

def line (record : Record) : CodeString :=
  let base : CodeString := record.level.label ++ " | " ++ record.logger ++ " | " ++ record.message
  let extras := CodeString.join " " ((shownExtras record.extras).map showExtra)
  if extras = "" then base else base ++ " | " ++ extras

/-! ## Masking -/

def redactValue (redactor : Redactor) (value : Json.Value) : Json.Value :=
  match value.string? with
  | some string => .ofString (redactor.redact string)
  | none => value

/-- Masks the secrets in the message and in every extra that is a string. -/
def redact (redactor : Redactor) (record : Record) : Record :=
  { record with
    message := redactor.redact record.message
    extras := record.extras.map fun extra =>
      if isReserved extra.1 then extra else (extra.1, redactValue redactor extra.2) }

end Record

end QueryBridge.Log
