import QueryBridge.Calendar
import QueryBridge.Decimal.Layout
import QueryBridge.Json.Token
import QueryBridge.Runtime

/-!
# Values of configuration documents

YAML and TOML documents hold more kinds of values than JSON: dates and times, bytes,
and mappings whose keys need not be texts.  A datum shows itself as a JSON value does:
by its literal, except that a text, a date or a time at the top stands for itself.
-/

namespace QueryBridge

open QueryBridge.Decimal (Binary64)

inductive Datum where
  | null
  | bool (value : Bool)
  | int (value : Int)
  | float (value : Binary64)
  | text (value : String)
  | bytes (value : List UInt8)
  | date (value : Date)
  | time (value : Time)
  | dateTime (date : Date) (time : Time) (offset : Option Offset)
  | list (items : List Datum)
  | tuple (items : List Datum)
  | set (items : List Datum)
  | mapping (entries : List (Datum × Datum))
deriving Repr

namespace Datum

/-! ## Text -/

private def byteChars (quote : Char) (b : UInt8) : List Char :=
  let c := Char.ofNat b.toNat
  if c = quote || c = '\\' then ['\\', c]
  else if c = '\n' then ['\\', 'n']
  else if c = '\r' then ['\\', 'r']
  else if c = '\t' then ['\\', 't']
  else if 0x20 ≤ b && b < 0x7F then [c]
  else '\\' :: 'x' :: Text.hexDigits 2 b.toNat

def bytesLiteral (value : List UInt8) : String :=
  let quote := if value.contains 0x27 && !value.contains 0x22 then '"' else '\''
  String.ofList ('b' :: quote :: value.flatMap (byteChars quote) ++ [quote])

private def numbersLiteral (numbers : List Nat) : String :=
  String.intercalate ", " (numbers.map toString)

def offsetLiteral : Option Offset → String
  | none => ""
  | some offset => ", tzinfo=" ++ offset.literal

mutual

def literal : Datum → String
  | .null => "None"
  | .bool true => "True"
  | .bool false => "False"
  | .int value => toString value
  | .float value => Decimal.plain.render value
  | .text value => Text.quoted value
  | .bytes value => bytesLiteral value
  | .date value => "datetime.date(" ++ numbersLiteral value.numbers ++ ")"
  | .time value => "datetime.time(" ++ numbersLiteral value.numbers ++ ")"
  | .dateTime day clock offset =>
      "datetime.datetime(" ++ numbersLiteral (day.numbers ++ clock.numbers) ++
        offsetLiteral offset ++ ")"
  | .list items => "[" ++ String.intercalate ", " (literals items) ++ "]"
  | .tuple items => "(" ++ String.intercalate ", " (literals items) ++ ")"
  | .set [] => "set()"
  | .set (item :: items) =>
      "\x7b" ++ String.intercalate ", " (item.literal :: literals items) ++ "\x7d"
  | .mapping entries => "\x7b" ++ String.intercalate ", " (entryLiterals entries) ++ "\x7d"

def literals : List Datum → List String
  | [] => []
  | item :: items => item.literal :: literals items

def entryLiterals : List (Datum × Datum) → List String
  | [] => []
  | (key, value) :: entries => (key.literal ++ ": " ++ value.literal) :: entryLiterals entries

end

def display : Datum → String
  | .text value => value
  | .date value => value.display
  | .time value => value.display
  | .dateTime day clock offset =>
      day.display ++ " " ++ clock.display ++ (offset.map Offset.display).getD ""
  | value => value.literal

/-- Why a value has no text. -/
inductive Fault where
  /-- An integer has more digits than can be written. -/
  | digits
  /-- Showing the value takes more calls inside each other than there can be. -/
  | depth
deriving Repr, DecidableEq

def Fault.message : Fault → String
  | .digits =>
      "Exceeds the limit (4300 digits) for integer string conversion; use " ++
        "sys.set_int_max_str_digits() to increase the limit"
  | .depth => "maximum recursion depth exceeded while getting the repr of an object"

mutual

/-- What is met first that cannot be shown in a number of calls inside each other.  Every value
takes one call, and a set one more for the list of its members. -/
def faultIn? : Nat → Datum → Option Fault
  | 0, _ => some .depth
  | _ + 1, .int value =>
      if value.natAbs < Nat.pow 10 Json.Token.maxDigits then none else some .digits
  | calls + 1, .list items | calls + 1, .tuple items => itemsFaultIn? calls items
  | _ + 1, .set [] => none
  | 1, .set (_ :: _) => some .depth
  | calls + 2, .set (item :: items) =>
      (faultIn? calls item).or (itemsFaultIn? calls items)
  | calls + 1, .mapping entries => entriesFaultIn? calls entries
  | _ + 1, _ => none

def itemsFaultIn? : Nat → List Datum → Option Fault
  | _, [] => none
  | calls, item :: items => (faultIn? calls item).or (itemsFaultIn? calls items)

def entriesFaultIn? : Nat → List (Datum × Datum) → Option Fault
  | _, [] => none
  | calls, (key, value) :: entries =>
      ((faultIn? calls key).or (faultIn? calls value)).or (entriesFaultIn? calls entries)

end

/-- Why a value cannot be shown. -/
def fault? [Runtime] (value : Datum) : Option Fault :=
  value.faultIn? (Runtime.showingCalls + 1)

/-- The text of a value. -/
def toText [Runtime] (value : Datum) : Except Fault String :=
  match value.fault? with
  | some fault => .error fault
  | none => .ok value.display

/-- The name of the kind of a value, as messages give it. -/
def kindName : Datum → String
  | .null => "NoneType"
  | .bool _ => "bool"
  | .int _ => "int"
  | .float _ => "float"
  | .text _ => "str"
  | .bytes _ => "bytes"
  | .date _ => "datetime.date"
  | .time _ => "datetime.time"
  | .dateTime .. => "datetime.datetime"
  | .list _ => "list"
  | .tuple _ => "tuple"
  | .set _ => "set"
  | .mapping _ => "dict"

/-- Whether a value counts as absent: null, false, zero, or without content. -/
def isEmpty : Datum → Bool
  | .null => true
  | .bool value => !value
  | .int value => value == 0
  | .float (.finite _ significand _) => significand == 0
  | .text value => value == ""
  | .bytes value => value.isEmpty
  | .list items | .tuple items | .set items => items.isEmpty
  | .mapping entries => entries.isEmpty
  | _ => false

/-! ## Keys -/

/-- The value of a number; truth values count as one and zero. -/
def number? : Datum → Option Binary64
  | .bool value => some (.ofRatio false (if value then 1 else 0) 1)
  | .int value => some (.ofRatio (value < 0) value.natAbs 1)
  | .float value => some value
  | _ => none

/-- Whether two numbers are equal; zeros are equal whatever their signs. -/
def sameNumber : Binary64 → Binary64 → Bool
  | .finite s m e, .finite s' m' e' => m == m' && e == e' && (m == 0 || s == s')
  | first, second => first == second

/-- Whether two keys are the same: integers and texts exactly, numbers of different kinds
by value, everything else by what it is. -/
def sameKey (first second : Datum) : Bool :=
  match first, second with
  | .int a, .int b => a == b
  | .bool a, .bool b => a == b
  | .text a, .text b => a == b
  | _, _ =>
      match first.number?, second.number? with
      | some a, some b => sameNumber a b
      | none, none => first.kindName == second.kindName && first.literal == second.literal
      | _, _ => false

/-- Gives `value` to `key`: in its place if it is there, else at the end. -/
def insertEntry (key value : Datum) : List (Datum × Datum) → List (Datum × Datum)
  | [] => [(key, value)]
  | (other, old) :: rest =>
      if other.sameKey key then (other, value) :: rest
      else (other, old) :: insertEntry key value rest

/-- The value under a key that is a text. -/
def get? (entries : List (Datum × Datum)) (key : String) : Option Datum :=
  (entries.find? fun entry => entry.1.sameKey (.text key)).map Prod.snd

end Datum

end QueryBridge
