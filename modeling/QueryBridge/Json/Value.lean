import QueryBridge.Decimal.Binary64
import QueryBridge.Fields
import QueryBridge.Text.CodeString

/-!
# JSON values

Integers have any size, other numbers are rounded to binary floating point, and the
members of an object keep their order.  A document can hold unpaired surrogates; a string
or a name with one is no text and is kept as its code points.
-/

namespace QueryBridge.Json

open QueryBridge.Decimal (Binary64)

inductive Value where
  | null
  | bool (value : Bool)
  | int (value : Int)
  | float (value : Binary64)
  | text (value : String)
  | brokenText (value : BrokenText)
  | array (items : List Value)
  | object (fields : List (CodeString × Value))
deriving Repr

/-- The members of an object. -/
abbrev Members := FieldsOf CodeString Value

namespace Value

/-- A string as a value. -/
def ofString : CodeString → Value
  | .text value => .text value
  | .broken value => .brokenText value

/-- The string that a value is. -/
def string? : Value → Option CodeString
  | .text value => some value
  | .brokenText value => some (.broken value)
  | _ => none

/-- The members of an object. -/
def fields? : Value → Option Members
  | .object fields => some fields
  | _ => none

/-- The items of an array. -/
def items? : Value → Option (List Value)
  | .array items => some items
  | _ => none

mutual

/-- Whether all strings and names in a value are texts. -/
def isWellFormed : Value → Bool
  | .brokenText _ => false
  | .array items => areWellFormed items
  | .object fields => haveWellFormed fields
  | .null | .bool _ | .int _ | .float _ | .text _ => true

def areWellFormed : List Value → Bool
  | [] => true
  | item :: items => item.isWellFormed && areWellFormed items

def haveWellFormed : List (CodeString × Value) → Bool
  | [] => true
  | (name, value) :: fields =>
      name.text?.isSome && value.isWellFormed && haveWellFormed fields

end

mutual

/-- How many arrays and objects lie around each other at most. -/
def depth : Value → Nat
  | .array items => depthOfItems items + 1
  | .object fields => depthOfFields fields + 1
  | .null | .bool _ | .int _ | .float _ | .text _ | .brokenText _ => 0

def depthOfItems : List Value → Nat
  | [] => 0
  | item :: items => max item.depth (depthOfItems items)

def depthOfFields : List (CodeString × Value) → Nat
  | [] => 0
  | (_, value) :: fields => max value.depth (depthOfFields fields)

end

end Value

end QueryBridge.Json
