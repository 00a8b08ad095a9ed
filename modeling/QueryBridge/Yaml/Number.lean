import QueryBridge.Decimal.Binary64
import QueryBridge.Json.Token
import QueryBridge.Text.Blank
import QueryBridge.Text.Split
import QueryBridge.Yaml.Error

/-!
# Numbers in YAML

A plain scalar is an integer in base two, eight, ten or sixteen, or in base sixty with
colons between its places; a number needs a point, or is an infinity or no number.
Underscores between the digits do not count.

Whether a text has the form of a number is one question, and its value is another: a
text that is declared a number need not have the form, and then it may have no value.
-/

namespace QueryBridge.Yaml

open QueryBridge.Decimal (Binary64)

/-! ## Forms -/

/-- Digits of decimal numbers and the underscores between them. -/
def isDigitOrGap (c : Char) : Bool :=
  c.isDigit || c == '_'

/-- The text without one sign in front. -/
def dropSign : List Char → List Char
  | '+' :: rest | '-' :: rest => rest
  | text => text

/-- A colon and a number below sixty, one or more times; yields the rest. -/
def places : List Char → Option (List Char)
  | ':' :: a :: b :: rest =>
      if a.isDigit && a < '6' && b.isDigit then (places rest).or (some rest)
      else if a.isDigit then (places (b :: rest)).or (some (b :: rest))
      else none
  | [':', a] => if a.isDigit then some [] else none
  | _ => none

/-- A digit other than zero with more digits behind it; yields the rest. -/
def leadingNumber : List Char → Option (List Char)
  | c :: rest =>
      if c.isDigit && c != '0' then some (rest.dropWhile isDigitOrGap) else none
  | [] => none

def isInteger (text : List Char) : Bool :=
  match dropSign text with
  | ['0'] => true
  | '0' :: 'b' :: digits =>
      !digits.isEmpty && digits.all fun c => c == '0' || c == '1' || c == '_'
  | '0' :: 'x' :: digits =>
      !digits.isEmpty && digits.all fun c =>
        c.isDigit || ('a' ≤ c && c ≤ 'f') || ('A' ≤ c && c ≤ 'F') || c == '_'
  | '0' :: digits => digits.all fun c => ('0' ≤ c && c ≤ '7') || c == '_'
  | number =>
      match leadingNumber number with
      | some [] => true
      | some rest => places rest == some []
      | none => false

/-- Nothing, or a signed exponent. -/
def isExponent : List Char → Bool
  | [] => true
  | mark :: sign :: digits =>
      (mark == 'e' || mark == 'E') && (sign == '+' || sign == '-') &&
        !digits.isEmpty && digits.all Char.isDigit
  | _ => false

/-- A point and what may follow it. -/
def isFraction : List Char → Bool
  | '.' :: rest => isExponent (rest.dropWhile isDigitOrGap)
  | _ => false

/-- A number with a point behind its first digits. -/
def isPointNumber : List Char → Bool
  | c :: rest =>
      let behind := rest.dropWhile isDigitOrGap
      c.isDigit && (isFraction behind ||
        match places behind with
        | some ('.' :: digits) => digits.all isDigitOrGap
        | _ => false)
  | [] => false

def isNumber (text : List Char) : Bool :=
  isPointNumber (dropSign text) ||
    (match text with
    | '.' :: c :: rest => c.isDigit && isExponent (rest.dropWhile isDigitOrGap)
    | _ => false) ||
    [".inf", ".Inf", ".INF"].contains (String.ofList (dropSign text)) ||
    [".nan", ".NaN", ".NAN"].contains (String.ofList text)

/-! ## Values of digits -/

/-- The value of a digit, whatever the base. -/
def digitValue? (c : Char) : Option Nat :=
  if c.isDigit then some (c.toNat - '0'.toNat)
  else if 'a' ≤ c && c ≤ 'z' then some (c.toNat - 'a'.toNat + 10)
  else if 'A' ≤ c && c ≤ 'Z' then some (c.toNat - 'A'.toNat + 10)
  else none

/-- The number that digits in a base stand for. -/
def digits? (base : Nat) (text : List Char) : Option Nat :=
  if text.isEmpty then none
  else text.foldlM (fun total c => do
    let digit ← digitValue? c
    if digit < base then some (total * base + digit) else none) 0

/-- The text without the mark of its base in front. -/
def dropBaseMark (base : Nat) : List Char → List Char
  | '0' :: mark :: rest =>
      if (base == 2 && (mark == 'b' || mark == 'B')) ||
          (base == 8 && (mark == 'o' || mark == 'O')) ||
          (base == 16 && (mark == 'x' || mark == 'X')) then rest
      else '0' :: mark :: rest
  | text => text

/-- The integer that a text stands for in a base.  Decimal digits beyond the admitted
number of them cannot be converted. -/
def integerIn (base : Nat) (text : List Char) : Except Error Int :=
  let trimmed := Text.trimChars text
  let number := dropBaseMark base (dropSign trimmed)
  match digits? base number with
  | none => .error (.integer base (String.ofList text))
  | some value =>
      if base == 10 && Json.Token.maxDigits < number.length then
        .error (.tooManyDigits number.length)
      else .ok (if trimmed.head? == some '-' then -(value : Int) else value)

/-! ## Integers -/

/-- The value of an integer without its sign. -/
def magnitude : List Char → Except Error Int
  | [] => .error .emptyNumber
  | ['0'] => .ok 0
  | '0' :: 'b' :: digits => integerIn 2 digits
  | '0' :: 'x' :: digits => integerIn 16 digits
  | '0' :: digits => integerIn 8 ('0' :: digits)
  | text => do
      if text.contains ':' then
        let parts ← (Text.splitOn ':' text).mapM (integerIn 10)
        return parts.foldl (fun total part => total * 60 + part) 0
      else
        integerIn 10 text

def integer (text : String) : Except Error Int := do
  let digits := text.toList.filter (· != '_')
  let value ← magnitude (dropSign digits)
  return if digits.head? == some '-' then -value else value

/-! ## Numbers with a point -/

/-- The digits of a text and what follows them. -/
def digitRun (text : List Char) : List Char × List Char :=
  text.span Char.isDigit

/-- The exponent at the end of a number. -/
def exponent? : List Char → Option Int
  | [] => some 0
  | mark :: rest =>
      if mark == 'e' || mark == 'E' then
        let digits := dropSign rest
        (digits? 10 digits).map fun value =>
          if rest.head? == some '-' then -(value : Int) else value
      else none

/-- A decimal number without a sign. -/
def decimal? (text : List Char) : Option Binary64 := do
  let (whole, rest) := digitRun text
  let (fraction, rest) := match rest with
    | '.' :: rest => digitRun rest
    | rest => ([], rest)
  let digits ← digits? 10 (whole ++ fraction)
  let exponent ← exponent? rest
  return .ofScientific false digits (exponent - fraction.length)

/-- The number that a text in lower case stands for. -/
def floatOf (text : List Char) : Except Error Binary64 :=
  let trimmed := Text.trimChars text
  let number := dropSign trimmed
  let value? :=
    if ["inf", "infinity"].contains (String.ofList number) then some (Binary64.infinite false)
    else if number == "nan".toList then some .nan
    else decimal? number
  match value? with
  | none => .error (.number (String.ofList text))
  | some value => .ok (if trimmed.head? == some '-' then value.neg else value)

/-- The sum of numbers, the last times one, the one in front of it times sixty, and
so on, added from the last to the first. -/
def sexagesimal (parts : List Binary64) : Binary64 :=
  (parts.foldr (fun part (total : Binary64 × Nat) =>
    (total.1.add (part.mul (.ofRatio false total.2 1)), total.2 * 60))
    (Binary64.zero false, 1)).1

def unsignedNumber (text : List Char) : Except Error Binary64 := do
  if text = ".inf".toList then return .infinite false
  else if text = ".nan".toList then return .nan
  else if text.contains ':' then
    return sexagesimal (← (Text.splitOn ':' text).mapM floatOf)
  else floatOf text

def number (text : String) : Except Error Binary64 := do
  let digits := ((text.toList.filter (· != '_')).map Char.toLower)
  if digits.isEmpty then throw .emptyNumber
  let value ← unsignedNumber (dropSign digits)
  return if digits.head? == some '-' then value.neg else value

end QueryBridge.Yaml
