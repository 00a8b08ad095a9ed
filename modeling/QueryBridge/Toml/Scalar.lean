import QueryBridge.Datum
import QueryBridge.Json.Token
import QueryBridge.Toml.Text

/-!
# Scalars in TOML

Dates, times, numbers and truth values are not quoted.  A scalar is the longest text of
its form; what follows it is no concern of its own.
-/

namespace QueryBridge.Toml

open QueryBridge.Decimal (Binary64)

/-! ## Dates and times -/

private def digit? : List Char → Option (Nat × List Char)
  | c :: rest => if c.isDigit then some (c.toNat - '0'.toNat, rest) else none
  | [] => none

/-- Two digits that form a number in the bounds. -/
def twoDigits? (least most : Nat) (text : List Char) : Option (Nat × List Char) := do
  let (tens, rest) ← digit? text
  let (ones, rest) ← digit? rest
  let number := tens * 10 + ones
  if least ≤ number && number ≤ most then some (number, rest) else none

def expect? (c : Char) : List Char → Option (List Char)
  | first :: rest => if first = c then some rest else none
  | [] => none

/-- Millionths of a second behind a point; smaller parts are cut off. -/
def fraction (text : List Char) : Nat × List Char :=
  match text with
  | '.' :: rest =>
      let digits := rest.takeWhile Char.isDigit
      if digits.isEmpty then (0, text)
      else
        (Json.Token.ofDigits ((digits ++ List.replicate 6 '0').take 6), rest.drop digits.length)
  | text => (0, text)

/-- A time of day, if the text begins with one. -/
def clock? (text : List Char) : Option (Time × List Char) := do
  let (hour, rest) ← twoDigits? 0 23 text
  let rest ← expect? ':' rest
  let (minute, rest) ← twoDigits? 0 59 rest
  let rest ← expect? ':' rest
  let (second, rest) ← twoDigits? 0 59 rest
  let (microsecond, rest) := fraction rest
  return (⟨hour, minute, second, microsecond⟩, rest)

/-- The distance from universal time, if the text begins with one. -/
def offset? : List Char → Option (Offset × List Char)
  | 'Z' :: rest | 'z' :: rest => some (.utc, rest)
  | sign :: rest => do
      if sign != '+' && sign != '-' then none
      let (hours, rest) ← twoDigits? 0 23 rest
      let rest ← expect? ':' rest
      let (minutes, rest) ← twoDigits? 0 59 rest
      let distance : Int := hours * 60 + minutes
      return (⟨if sign == '-' then -distance else distance⟩, rest)
  | [] => none

/-- A time behind a date. -/
def clockBehind? : List Char → Option (Time × List Char)
  | c :: rest => if c == 'T' || c == 't' || c == ' ' then clock? rest else none
  | [] => none

/-- The numbers of a date, if the text begins with one. -/
def dateNumbers? (text : List Char) : Option (Nat × Nat × Nat × List Char) := do
  let (century, rest) ← twoDigits? 0 99 text
  let (year, rest) ← twoDigits? 0 99 rest
  let rest ← expect? '-' rest
  let (month, rest) ← twoDigits? 1 12 rest
  let rest ← expect? '-' rest
  let (day, rest) ← twoDigits? 1 31 rest
  return (century * 100 + year, month, day, rest)

/-- A date with or without a time, if the text begins with one. -/
def date? (text : List Char) : Option (Except Error (Datum × List Char)) := do
  let (year, month, day, rest) ← dateNumbers? text
  match Date.make year month day with
  | .error _ => return .error .malformed
  | .ok date =>
      match clockBehind? rest with
      | none => return .ok (.date date, rest)
      | some (time, rest) =>
          match offset? rest with
          | some (offset, rest) => return .ok (.dateTime date time (some offset), rest)
          | none => return .ok (.dateTime date time none, rest)

/-! ## Numbers -/

/-- Digits of a class with single underscores between them, and the rest. -/
def moreDigits (p : Char → Bool) : List Char → List Char × List Char
  | '_' :: c :: rest =>
      if p c then ((moreDigits p rest).map (c :: ·) id) else ([], '_' :: c :: rest)
  | c :: rest => if p c then ((moreDigits p rest).map (c :: ·) id) else ([], c :: rest)
  | [] => ([], [])

/-- At least one digit of a class. -/
def digits? (p : Char → Bool) : List Char → Option (List Char × List Char)
  | c :: rest => if p c then some ((moreDigits p rest).map (c :: ·) id) else none
  | [] => none

def valueIn (base : Nat) (digits : List Char) : Nat :=
  digits.foldl (fun total c => total * base + (Text.Percent.hexValue? c).getD 0) 0

/-- An integer with the mark of its base. -/
def marked? : List Char → Option (Int × List Char)
  | '0' :: mark :: rest => do
      let (base, p) ← match mark with
        | 'x' => some (16, fun c => (Text.Percent.hexValue? c).isSome)
        | 'b' => some (2, fun c => c == '0' || c == '1')
        | 'o' => some (8, fun c => '0' ≤ c && c ≤ '7')
        | _ => none
      let (digits, rest) ← digits? p rest
      return ((valueIn base digits : Int), rest)
  | _ => none

/-- The digits in front of a point: a zero alone, or a number without one in front. -/
def whole? : List Char → Option (List Char × List Char)
  | '0' :: rest => some (['0'], rest)
  | text => digits? Char.isDigit text

/-- The digits behind a point, if there are any. -/
def fractionDigits (text : List Char) : List Char × List Char :=
  match text with
  | '.' :: rest => (digits? Char.isDigit rest).getD ([], text)
  | text => ([], text)

/-- Whether the text begins with a sign, and the text without it. -/
def signed : List Char → Bool × List Char
  | '-' :: rest => (true, rest)
  | '+' :: rest => (false, rest)
  | text => (false, text)

/-- The exponent of a number, if there is one. -/
def exponent? : List Char → Option (Int × List Char)
  | mark :: rest => do
      if mark != 'e' && mark != 'E' then none
      let (negative, rest) := signed rest
      let (digits, rest) ← digits? Char.isDigit rest
      let value : Int := Json.Token.ofDigits digits
      return (if negative then -value else value, rest)
  | [] => none

def decimal? (text : List Char) : Option (Except Error (Datum × List Char)) := do
  let (negative, rest) := signed text
  let (whole, rest) ← whole? rest
  let (fraction, rest) := fractionDigits rest
  match fraction, exponent? rest with
  | [], none =>
      if Json.Token.maxDigits < whole.length then return .error (.tooManyDigits whole.length)
      let value : Int := Json.Token.ofDigits whole
      return .ok (.int (if negative then -value else value), rest)
  | fraction, exponent =>
      let (exponent, rest) := exponent.getD (0, rest)
      let value := Binary64.ofScientific negative (Json.Token.ofDigits (whole ++ fraction))
        (exponent - fraction.length)
      return .ok (.float value, rest)

/-! ## Words -/

def words : List (String × Datum) :=
  [("true", .bool true), ("false", .bool false), ("inf", .float (.infinite false)),
    ("nan", .float .nan), ("+inf", .float (.infinite false)),
    ("-inf", .float (.infinite true)), ("+nan", .float .nan), ("-nan", .float .nan)]

def word? (text : List Char) : Option (Datum × List Char) :=
  (words.find? fun word => word.1.toList.isPrefixOf text).map fun word =>
    (word.2, text.drop word.1.length)

/-! ## Scalars -/

/-- The scalar that a text begins with, which is not in quotes. -/
def scalar (text : List Char) : Except Error (Datum × List Char) :=
  match date? text with
  | some read => read
  | none =>
      match clock? text with
      | some (time, rest) => .ok (.time time, rest)
      | none =>
          match marked? text with
          | some (value, rest) => .ok (.int value, rest)
          | none =>
              match decimal? text with
              | some read => read
              | none =>
                  match word? text with
                  | some read => .ok read
                  | none => .error .malformed

end QueryBridge.Toml
