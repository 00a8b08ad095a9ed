/-!
# What is wrong with a TOML document
-/

namespace QueryBridge.Toml

inductive Error where
  /-- The text breaks the rules of the language. -/
  | malformed
  /-- An integer has more decimal digits than can be converted. -/
  | tooManyDigits (count : Nat)
  /-- A value lies in more lists and tables than can be read. -/
  | tooDeep
deriving Repr, DecidableEq

def Error.message : Error → String
  | .malformed => ""
  | .tooManyDigits count =>
      "Exceeds the limit (4300 digits) for integer string conversion: value has " ++
        toString count ++ " digits; use sys.set_int_max_str_digits() to increase the limit"
  | .tooDeep => "maximum recursion depth exceeded"

end QueryBridge.Toml
