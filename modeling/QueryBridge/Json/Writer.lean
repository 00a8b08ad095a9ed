import QueryBridge.Decimal.Layout
import QueryBridge.Json.Sign
import QueryBridge.Json.Value
import QueryBridge.Text.Quoted

/-!
# Writing JSON documents

A style says what stands between items, between a name and its value, and whether
containers are spread over indented lines.  In strings only quotes, backslashes and
the control characters below the space are escaped.

A surrogate, for which a text has no character, is written as it is.  A document that is to be
a text has the escape in its place.
-/

namespace QueryBridge.Json

/-- How documents are laid out. -/
structure Style where
  comma : List Sign
  colon : List Sign
  /-- The count of spaces for each level, if containers are spread over lines. -/
  indent : Option Nat

namespace Style

/-- No space anywhere. -/
def compact : Style := ⟨[.char ','], [.char ':'], none⟩

/-- A space after each separator. -/
def spaced : Style := ⟨Sign.ofText [',', ' '], Sign.ofText [':', ' '], none⟩

/-- One item on each line, two spaces for each level. -/
def indented : Style := ⟨[.char ','], Sign.ofText [':', ' '], some 2⟩

/-- The line break in front of an item at the given depth. -/
def lineBreak (style : Style) (depth : Nat) : List Sign :=
  match style.indent with
  | none => []
  | some width => Sign.ofText ('\n' :: List.replicate (width * depth) ' ')

end Style

/-! ## Strings -/

def escapeChar (c : Char) : List Char :=
  if c = '"' then ['\\', '"']
  else if c = '\\' then ['\\', '\\']
  else if c = '\n' then ['\\', 'n']
  else if c = '\r' then ['\\', 'r']
  else if c = '\t' then ['\\', 't']
  else if c = '\x0c' then ['\\', 'f']
  else if c = '\x08' then ['\\', 'b']
  else if c.toNat < 0x20 then '\\' :: 'u' :: Text.hexDigits 4 c.toNat
  else [c]

def escapeSign : Sign → List Sign
  | .char c => Sign.ofText (escapeChar c)
  | .surrogate code => [.surrogate code]

def writeString (string : CodeString) : List Sign :=
  .char '"' :: (Sign.ofString string).flatMap escapeSign ++ [.char '"']

/-! ## Values -/

mutual

/-- A value at the given depth. -/
def Value.write (style : Style) (depth : Nat) : Value → List Sign
  | .null => Sign.ofText "null".toList
  | .bool true => Sign.ofText "true".toList
  | .bool false => Sign.ofText "false".toList
  | .int value => Sign.ofText (toString value).toList
  | .float value => Sign.ofText (Decimal.json.render value).toList
  | .text value => writeString value
  | .brokenText value => writeString (.broken value)
  | .array [] => [.char '[', .char ']']
  | .array (item :: items) =>
      .char '[' :: style.lineBreak (depth + 1) ++ item.write style (depth + 1) ++
        Value.writeItems style (depth + 1) items ++ style.lineBreak depth ++ [.char ']']
  | .object [] => [.char '{', .char '}']
  | .object ((name, value) :: fields) =>
      .char '{' :: style.lineBreak (depth + 1) ++ writeString name ++ style.colon ++
        value.write style (depth + 1) ++ Value.writeFields style (depth + 1) fields ++
        style.lineBreak depth ++ [.char '}']

/-- The further items of an array, each behind a comma. -/
def Value.writeItems (style : Style) (depth : Nat) : List Value → List Sign
  | [] => []
  | item :: items =>
      style.comma ++ style.lineBreak depth ++ item.write style depth ++
        Value.writeItems style depth items

/-- The further fields of an object, each behind a comma. -/
def Value.writeFields (style : Style) (depth : Nat) : List (CodeString × Value) → List Sign
  | [] => []
  | (name, value) :: fields =>
      style.comma ++ style.lineBreak depth ++ writeString name ++ style.colon ++
        value.write style depth ++ Value.writeFields style depth fields

end

/-- The compact document of a value. -/
def Value.compact (value : Value) : CodeString :=
  .ofCodes ((value.write .compact 0).map Sign.code)

/-- A sign in a document that is to be a text. -/
def Sign.spell : Sign → List Char
  | .char c => [c]
  | .surrogate code => '\\' :: 'u' :: Text.hexDigits 4 code

/-- The document of a value in the given style, as a text. -/
def Value.render (style : Style) (value : Value) : String :=
  String.ofList ((value.write style 0).flatMap Sign.spell)

end QueryBridge.Json
