import QueryBridge.Http.Message
import QueryBridge.Json.Reader
import QueryBridge.Text.Blank
import QueryBridge.Text.Split
import QueryBridge.Text.Utf8

/-!
# Recorded replies

A recording holds one reply of the service on each line, as a JSON object.  A reply is
a fault, with the name of its kind and a message, or an answer with a status, headers,
and a text.  An answer without a status is one of success; empty lines do not count.
-/

namespace QueryBridge.Http.Recording

open QueryBridge.Json (Value)

/-- The text under a name, empty if there is none. -/
def textOf (fields : Json.Members) (name : String) : Option String :=
  match Fields.get? fields name with
  | none => some ""
  | some (.text text) => some text
  | some _ => none

def statusOf (fields : Json.Members) : Option Nat :=
  match Fields.get? fields "status" with
  | none => some 200
  | some (.int status) => if 0 ≤ status then some status.toNat else none
  | some _ => none

def headerOf : Value → Option (String × CodeString)
  | .array [.text name, value] => value.string?.map fun value => (name, value)
  | _ => none

def headersOf (fields : Json.Members) : Option Headers :=
  match Fields.get? fields "headers" with
  | none => some []
  | some (.array headers) => headers.mapM headerOf
  | some _ => none

/-- The reply that an object holds. -/
def replyOf (fields : Json.Members) : Option Reply := do
  if (Fields.get? fields "fault").isSome then
    let kind ← FaultKind.ofName? (← textOf fields "fault")
    return .fault ⟨kind, ← textOf fields "message"⟩
  else
    let body ← textOf fields "body"
    return .answer ⟨← statusOf fields, ← headersOf fields, Text.Utf8.encode body.toList⟩

def replyOfLine (line : String) : Option Reply :=
  (Json.read? line).bind fun value => value.fields?.bind replyOf

def lines (text : String) : List String :=
  ((Text.splitOn '\n' text.toList).filter fun line => !line.all Text.isBlank).map String.ofList

/-- The replies in a recording, if all of its lines can be read. -/
def read? (text : String) : Option (List Reply) :=
  (lines text).mapM replyOfLine

end QueryBridge.Http.Recording
