import QueryBridge.Json.Sign
import QueryBridge.Json.Value
import QueryBridge.Text.Percent

/-!
# JSON tokens

A document is cut into brackets, separators and scalars.  Besides the words of the
JSON standard the numbers `NaN`, `Infinity` and `-Infinity` are read.  An integer of
more than `maxDigits` digits is refused.

Each reader returns what follows its token.
-/

namespace QueryBridge.Json

open QueryBridge.Decimal (Binary64)

inductive Token where
  | openArray
  | closeArray
  | openObject
  | closeObject
  | comma
  | colon
  | scalar (value : Value)
deriving Repr

namespace Token

/-- The greatest count of digits of an integer. -/
def maxDigits : Nat := 4300

def isSpace (sign : Sign) : Bool :=
  sign.satisfies fun c => c == ' ' || c == '\t' || c == '\n' || c == '\r'

/-! ## Strings -/

/-- The code point that four hexadecimal digits spell. -/
def hexCode? (a b c d : Char) : Option Nat := do
  let a ← Text.Percent.hexValue? a
  let b ← Text.Percent.hexValue? b
  let c ← Text.Percent.hexValue? c
  let d ← Text.Percent.hexValue? d
  return ((a * 16 + b) * 16 + c) * 16 + d

def isHighSurrogate (code : Nat) : Bool :=
  0xD800 ≤ code && code ≤ 0xDBFF

def isLowSurrogate (code : Nat) : Bool :=
  0xDC00 ≤ code && code ≤ 0xDFFF

def joinSurrogates (high low : Nat) : Nat :=
  0x10000 + (high - 0xD800) * 0x400 + (low - 0xDC00)

/-- The code point that a letter after a backslash stands for. -/
def shortEscape? (c : Char) : Option Nat :=
  match c with
  | '"' => some 0x22
  | '\\' => some 0x5C
  | '/' => some 0x2F
  | 'b' => some 0x08
  | 'f' => some 0x0C
  | 'n' => some 0x0A
  | 'r' => some 0x0D
  | 't' => some 0x09
  | _ => none

/-- A string's items before surrogates are joined: a code point, and whether an escape
spelled it. -/
abbrev Unit16 := Nat × Bool

/-- Reads up to the closing quote.  A surrogate stands for itself, but not behind a backslash. -/
def stringUnits? : List Sign → Option (List Unit16 × List Sign)
  | .char '"' :: rest => some ([], rest)
  | .char '\\' :: .char 'u' :: .char a :: .char b :: .char c :: .char d :: rest => do
      let code ← hexCode? a b c d
      let found ← stringUnits? rest
      return ((code, true) :: found.1, found.2)
  | .char '\\' :: .char c :: rest => do
      let code ← shortEscape? c
      let found ← stringUnits? rest
      return ((code, false) :: found.1, found.2)
  | .char '\\' :: _ => none
  | sign :: rest =>
      if sign.code < 0x20 then none
      else (stringUnits? rest).map fun found => ((sign.code, false) :: found.1, found.2)
  | [] => none

/-- Joins each escaped high surrogate with the escaped low one behind it. -/
def joinUnits : List Unit16 → List Nat
  | (high, true) :: (low, true) :: rest =>
      if isHighSurrogate high && isLowSurrogate low then
        joinSurrogates high low :: joinUnits rest
      else
        high :: joinUnits ((low, true) :: rest)
  | unit :: rest => unit.1 :: joinUnits rest
  | [] => []

/-! ## Numbers -/

def ofDigits (digits : List Char) : Nat :=
  digits.foldl (fun value digit => value * 10 + (digit.toNat - 48)) 0

def takeDigits (text : List Char) : List Char × List Char :=
  (text.takeWhile Char.isDigit, text.dropWhile Char.isDigit)

/-- The integer part: a zero, or digits that begin with another digit. -/
def wholePart? (text : List Char) : Option (List Char × List Char) :=
  match text with
  | '0' :: rest => some (['0'], rest)
  | c :: rest => if c.isDigit then some (takeDigits (c :: rest)) else none
  | [] => none

/-- The digits after a point; without digits the point is not part of the number. -/
def fractionPart (text : List Char) : List Char × List Char :=
  match text with
  | '.' :: rest =>
      let digits := takeDigits rest
      if digits.1.isEmpty then ([], text) else digits
  | _ => ([], text)

/-- The power of ten after an `e`; without digits the `e` is not part of the number. -/
def exponentPart (text : List Char) : Option Int × List Char :=
  match text with
  | c :: rest =>
      if c = 'e' || c = 'E' then
        let signed := match rest with
          | '-' :: rest => (true, rest)
          | '+' :: rest => (false, rest)
          | _ => (false, rest)
        let digits := takeDigits signed.2
        if digits.1.isEmpty then (none, text)
        else
          let power : Int := ofDigits digits.1
          (some (if signed.1 then -power else power), digits.2)
      else (none, text)
  | [] => (none, text)

/-- Reads a number without its sign. -/
def unsigned? (negative : Bool) (text : List Char) : Option (Value × List Char) := do
  let whole ← wholePart? text
  let fraction := fractionPart whole.2
  let power := exponentPart fraction.2
  if fraction.1.isEmpty && power.1.isNone then
    if maxDigits < whole.1.length then none
    else
      let value : Int := ofDigits whole.1
      return (.int (if negative then -value else value), power.2)
  else
    let exponent := power.1.getD 0 - fraction.1.length
    return (.float (Binary64.ofScientific negative (ofDigits (whole.1 ++ fraction.1)) exponent),
      power.2)

/-! ## One token -/

/-- What follows `word` at the start of a text. -/
def afterWord? (word text : List Char) : Option (List Char) :=
  if word.isPrefixOf text then some (text.drop word.length) else none

def words : List (List Char × Value) :=
  [("null".toList, .null), ("true".toList, .bool true), ("false".toList, .bool false),
    ("NaN".toList, .float .nan), ("Infinity".toList, .float (.infinite false)),
    ("-Infinity".toList, .float (.infinite true))]

def word? (text : List Char) : Option (Value × List Char) :=
  words.findSome? fun word => (afterWord? word.1 text).map fun rest => (word.2, rest)

def number? (text : List Char) : Option (Value × List Char) :=
  match text with
  | '-' :: rest => unsigned? true rest
  | _ => unsigned? false text

/-- Whether a character can stand in a word or a number. -/
def isPlain (c : Char) : Bool :=
  c.isAlphanum || c == '+' || c == '-' || c == '.'

/-- The word or number at the start of a text, and what follows it. -/
def plain? (text : List Sign) : Option (Value × List Sign) :=
  let run := (text.takeWhile (Sign.satisfies isPlain)).filterMap Sign.char?
  ((word? run).or (number? run)).map fun found =>
    (found.1, Sign.ofText found.2 ++ text.dropWhile (Sign.satisfies isPlain))

/-- The token at the start of a text that begins with no space, and what follows it. -/
def next? (text : List Sign) : Option (Token × List Sign) :=
  match text with
  | .char '[' :: rest => some (.openArray, rest)
  | .char ']' :: rest => some (.closeArray, rest)
  | .char '{' :: rest => some (.openObject, rest)
  | .char '}' :: rest => some (.closeObject, rest)
  | .char ',' :: rest => some (.comma, rest)
  | .char ':' :: rest => some (.colon, rest)
  | .char '"' :: rest =>
      (stringUnits? rest).map fun found =>
        (.scalar (.ofString (.ofCodes (joinUnits found.1))), found.2)
  | _ => (plain? text).map fun found => (.scalar found.1, found.2)

end Token

end QueryBridge.Json
