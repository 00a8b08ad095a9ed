import QueryBridge.Decimal.Layout
import QueryBridge.Json.Value
import QueryBridge.Text.Quoted

/-!
# Values in messages

A message names a value by its literal: texts are quoted, and the words are `None`,
`True` and `False`.  `display` is the same except that a text at the top stands
without quotes.
-/

namespace QueryBridge.Json.Value

mutual

def literal : Value → String
  | .null => "None"
  | .bool true => "True"
  | .bool false => "False"
  | .int value => toString value
  | .float value => Decimal.plain.render value
  | .text value => Text.quoted value
  | .brokenText value => Text.quotedCodes value.codes
  | .array items => "[" ++ String.intercalate ", " (literals items) ++ "]"
  | .object fields => "\x7b" ++ String.intercalate ", " (fieldLiterals fields) ++ "\x7d"

def literals : List Value → List String
  | [] => []
  | item :: items => item.literal :: literals items

def fieldLiterals : List (CodeString × Value) → List String
  | [] => []
  | (name, value) :: fields =>
      (Text.quotedString name ++ ": " ++ value.literal) :: fieldLiterals fields

end

def display : Value → CodeString
  | .text value => value
  | .brokenText value => .broken value
  | value => value.literal

end QueryBridge.Json.Value
