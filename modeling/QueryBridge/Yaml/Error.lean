import QueryBridge.Calendar

/-!
# What is wrong with a YAML document

A document that breaks the rules of the language, or asks for a kind of value that is
not admitted, has a syntax error.  The other causes are scalars that look like a value
of some kind but are none.

Some documents are not covered, because a value is a finite tree of texts and other values
in a fixed order.  Where reading meets what has no such value, it ends; what the document
stands for is left open.
-/

namespace QueryBridge.Yaml

/-- Why a document is not covered. -/
inductive Uncovered where
  /-- An alias stands inside the node that it names. -/
  | recursive
  /-- A text holds a surrogate. -/
  | surrogate
  /-- A set has several members, whose order is not determined. -/
  | unordered
  /-- The nodes lie deeper in each other than calls are sure to reach. -/
  | deep
deriving Repr, DecidableEq

inductive Error where
  | syntaxError
  | calendar (error : Calendar.Error)
  /-- Digits that are no integer in the base. -/
  | integer (base : Nat) (text : String)
  | tooManyDigits (count : Nat)
  | number (text : String)
  /-- An escape for a code point beyond the last one. -/
  | codePoint
  /-- An escape for a code point that is no small integer. -/
  | codePointSize
  /-- A scalar declared a truth value that is none. -/
  | truthValue
  /-- An empty scalar declared a number. -/
  | emptyNumber
  /-- A scalar declared a time that is none. -/
  | timestamp
  | uncovered (reason : Uncovered)
deriving Repr, DecidableEq

def Error.message : Error → String
  | .syntaxError => ""
  | .calendar error => error.message
  | .integer base text =>
      "invalid literal for int() with base " ++ toString base ++ ": " ++ Text.quoted text
  | .tooManyDigits count =>
      "Exceeds the limit (4300 digits) for integer string conversion: value has " ++
        toString count ++ " digits; use sys.set_int_max_str_digits() to increase the limit"
  | .number text => "could not convert string to float: " ++ Text.quoted text
  | .codePoint => "chr() arg not in range(0x110000)"
  | .codePointSize => ""
  | .truthValue => ""
  | .emptyNumber => ""
  | .timestamp => ""
  | .uncovered _ => ""

/-- What is wrong with a text where it gives no token. -/
inductive Fault where
  | syntaxError
  /-- The digits of a number in a directive. -/
  | tooManyDigits (count : Nat)
  | codePoint
  | codePointSize
  /-- An escape for a surrogate. -/
  | surrogate
deriving Repr, DecidableEq

def Fault.error : Fault → Error
  | .syntaxError => .syntaxError
  | .tooManyDigits count => .tooManyDigits count
  | .codePoint => .codePoint
  | .codePointSize => .codePointSize
  | .surrogate => .uncovered .surrogate

end QueryBridge.Yaml
