import QueryBridge.Json.Encoding
import QueryBridge.Json.Token

/-!
# Reading JSON documents

The tokens of a document drive a machine with a stack: one frame for every array and
object that is still open.  A name that an object repeats keeps its first place and
its last value.  A document is read from its beginning to the first fault, and opening an
array or object inside too many others is one.
-/

namespace QueryBridge.Json

/-- An open array or object. -/
inductive Frame where
  /-- The items so far, the last one first. -/
  | items (items : List Value)
  /-- The fields so far, with a name or the end to come. -/
  | fields (fields : Members)
  /-- The fields so far, and the name of the value to come. -/
  | field (fields : Members) (name : CodeString)

/-- What the machine waits for. -/
inductive Awaits where
  | value
  | itemOrEnd
  | nameOrEnd
  | name
  | colon
  /-- A value is complete: a comma or the end of its container follows. -/
  | separator

inductive Machine where
  | running (stack : List Frame) (awaits : Awaits)
  | finished (value : Value)

namespace Machine

def start : Machine :=
  .running [] .value

/-- Hands a complete value to the innermost open container. -/
def deliver (value : Value) : List Frame → Option Machine
  | [] => some (.finished value)
  | .items items :: stack => some (.running (.items (value :: items) :: stack) .separator)
  | .field fields name :: stack =>
      some (.running (.fields (Fields.insert name value fields) :: stack) .separator)
  | .fields _ :: _ => none

def beginsValue (stack : List Frame) : Token → Option Machine
  | .openArray => some (.running (.items [] :: stack) .itemOrEnd)
  | .openObject => some (.running (.fields [] :: stack) .nameOrEnd)
  | .scalar value => deliver value stack
  | .closeArray | .closeObject | .comma | .colon => none

def beginsField (stack : List Frame) (token : Token) : Option Machine :=
  match stack, token with
  | .fields fields :: stack, .scalar value =>
      value.string?.map fun name => .running (.field fields name :: stack) .colon
  | _, _ => none

def step (machine : Machine) (token : Token) : Option Machine :=
  match machine with
  | .finished _ => none
  | .running stack awaits =>
      match awaits, token, stack with
      | .value, token, stack => beginsValue stack token
      | .itemOrEnd, .closeArray, .items items :: rest => deliver (.array items.reverse) rest
      | .itemOrEnd, token, stack => beginsValue stack token
      | .nameOrEnd, .closeObject, .fields fields :: rest => deliver (.object fields) rest
      | .nameOrEnd, token, stack => beginsField stack token
      | .name, token, stack => beginsField stack token
      | .colon, .colon, stack => some (.running stack .value)
      | .separator, .comma, .items items :: rest => some (.running (.items items :: rest) .value)
      | .separator, .comma, .fields fields :: rest =>
          some (.running (.fields fields :: rest) .name)
      | .separator, .closeArray, .items items :: rest => deliver (.array items.reverse) rest
      | .separator, .closeObject, .fields fields :: rest => deliver (.object fields) rest
      | _, _, _ => none

/-- How many arrays and objects are open. -/
def depth : Machine → Nat
  | .running stack _ => stack.length
  | .finished _ => 0

end Machine

/-- Why a document has no value. -/
inductive ReadError where
  | malformed
  /-- An array or object is opened inside too many others. -/
  | tooDeep
deriving Repr, DecidableEq

namespace Machine

/-- A step that leaves at most `levels` arrays and objects open. -/
def stepWithin (levels : Nat) (machine : Machine) (token : Token) : Except ReadError Machine :=
  match machine.step token with
  | none => .error .malformed
  | some next => if levels < next.depth then .error .tooDeep else .ok next

/-- What the machine has at the end of a document. -/
def result : Machine → Except ReadError Value
  | .finished value => .ok value
  | .running _ _ => .error .malformed

/-- Reads a text of at most `fuel` tokens. -/
def readFrom (levels : Nat) : Nat → Machine → List Sign → Except ReadError Value
  | 0, machine, text =>
      if (text.dropWhile Token.isSpace).isEmpty then machine.result else .error .malformed
  | fuel + 1, machine, text =>
      match text.dropWhile Token.isSpace with
      | [] => machine.result
      | sign :: rest =>
          match Token.next? (sign :: rest) with
          | none => .error .malformed
          | some found => do
              let next ← machine.stepWithin levels found.1
              next.readFrom levels fuel found.2

end Machine

/-- The value of a document that nests at most `levels` arrays and objects.  A token is at
least one sign, so there are no more tokens than signs. -/
def read (levels : Nat) (document : List Sign) : Except ReadError Value :=
  Machine.start.readFrom levels document.length document

/-- The value of a document that comes as bytes. -/
def readBytes (levels : Nat) (bytes : List UInt8) : Except ReadError Value :=
  match decode? bytes with
  | none => .error .malformed
  | some document => read levels document

/-- The value of a text, however deep: it opens no more arrays and objects than it has
characters. -/
def read? (text : String) : Option Value :=
  (read text.length (Sign.ofText text.toList)).toOption

end QueryBridge.Json
