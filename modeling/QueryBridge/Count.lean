import QueryBridge.Json.Display
import QueryBridge.Json.Token
import QueryBridge.Text.Blank

/-!
# Counts

A count is a natural number.  The service states it as an integer, or as ASCII digits
with blanks around them; digits beyond the admitted number of them cannot be
converted.
-/

namespace QueryBridge

structure Count where
  value : Nat
deriving Repr, DecidableEq

namespace Count

/-- A count cannot be negative. -/
inductive Negative where
  | negative
deriving Repr, DecidableEq

def Negative.message : Negative → String
  | .negative => "Count must be non-negative."

def ofInt (value : Int) : Except Negative Count :=
  if 0 ≤ value then .ok ⟨value.toNat⟩ else .error .negative

/-! ## Reading a count -/

/-- Why a value is no count. -/
inductive Error where
  | boolean
  | tooLong
  | notInteger (value : Json.Value)
  | negative (value : Int)
deriving Repr

def Error.message : Error → String
  | .boolean => "The REST Service returned a boolean where a count was expected."
  | .tooLong =>
      "The REST Service returned a count that cannot be converted to an integer."
  | .notInteger value =>
      "The REST Service returned a count that is not an integer: " ++ value.literal ++ "."
  | .negative value =>
      "The REST Service returned a negative count: " ++ toString value ++ "."

/-- Reads a count from the value of a JSON field. -/
def ofValue : Json.Value → Except Error Nat
  | .bool _ => .error .boolean
  | .int value => if 0 ≤ value then .ok value.toNat else .error (.negative value)
  | .text text =>
      let digits := Text.trimChars text.toList
      if digits.isEmpty || !digits.all Char.isDigit then .error (.notInteger (.text text))
      else if Json.Token.maxDigits < digits.length then .error .tooLong
      else .ok (Json.Token.ofDigits digits)
  | value => .error (.notInteger value)

end Count

end QueryBridge
