import QueryBridge.Datum
import QueryBridge.Yaml.Error

/-!
# Dates and times in YAML

A timestamp is a date, or a date and a time with an optional fraction of a second and
an optional zone.  A plain scalar is a date only if month and day have two digits.
-/

namespace QueryBridge.Yaml

/-- What is written behind the seconds about the distance from universal time. -/
inductive Zone where
  | universal
  | offset (negative : Bool) (hours minutes : Nat)
deriving Repr, DecidableEq

/-- A time of day as it is written. -/
structure Clock where
  hour : Nat
  minute : Nat
  second : Nat
  microsecond : Nat
  zone : Option Zone
deriving Repr, DecidableEq

structure Timestamp where
  year : Nat
  month : Nat
  day : Nat
  clock : Option Clock
  /-- Whether month and day have two digits. -/
  isPadded : Bool
deriving Repr, DecidableEq

namespace Timestamp

/-! ## Reading -/

private def value (digits : List Char) : Nat :=
  digits.foldl (fun total c => total * 10 + (c.toNat - '0'.toNat)) 0

/-- Between `least` and `most` digits, as many as there are. -/
def readDigits (least most : Nat) (text : List Char) : Option (List Char × List Char) :=
  let digits := (text.take most).takeWhile Char.isDigit
  if digits.length < least then none else some (digits, text.drop digits.length)

def expect (c : Char) : List Char → Option (List Char)
  | first :: rest => if first = c then some rest else none
  | [] => none

/-- The digits of a fraction as millionths; what is smaller is cut off. -/
def millionths (digits : List Char) : Nat :=
  value ((digits ++ List.replicate 6 '0').take 6)

def readZone (text : List Char) : Option (Option Zone) :=
  match text.dropWhile fun c => c == ' ' || c == '\t' with
  | [] => if text.isEmpty then some none else none
  | ['Z'] => some (some .universal)
  | sign :: rest => do
      if sign != '+' && sign != '-' then none
      let (hours, rest) ← readDigits 1 2 rest
      match rest with
      | [] => return some (.offset (sign == '-') (value hours) 0)
      | ':' :: rest =>
          let (minutes, rest) ← readDigits 2 2 rest
          if rest.isEmpty then return some (.offset (sign == '-') (value hours) (value minutes))
          else none
      | _ => none

def readClock (text : List Char) : Option Clock := do
  let (hour, rest) ← readDigits 1 2 text
  let rest ← expect ':' rest
  let (minute, rest) ← readDigits 2 2 rest
  let rest ← expect ':' rest
  let (second, rest) ← readDigits 2 2 rest
  let (fraction, rest) := match rest with
    | '.' :: rest => rest.span Char.isDigit
    | rest => ([], rest)
  let zone ← readZone rest
  return ⟨value hour, value minute, value second, millionths fraction, zone⟩

/-- What separates a time from its date: one letter, or blanks. -/
def dropSeparator : List Char → Option (List Char)
  | 'T' :: rest | 't' :: rest => some rest
  | ' ' :: rest | '\t' :: rest => some (rest.dropWhile fun c => c == ' ' || c == '\t')
  | _ => none

def read? (text : List Char) : Option Timestamp := do
  let (year, rest) ← readDigits 4 4 text
  let rest ← expect '-' rest
  let (month, rest) ← readDigits 1 2 rest
  let rest ← expect '-' rest
  let (day, rest) ← readDigits 1 2 rest
  let isPadded := month.length == 2 && day.length == 2
  let clock ← match rest with
    | [] => some none
    | rest => ((dropSeparator rest).bind readClock).map some
  return ⟨value year, value month, value day, clock, isPadded⟩

/-- Whether a plain scalar is a timestamp. -/
def isPlain (text : List Char) : Bool :=
  match read? text with
  | some timestamp => timestamp.isPadded || timestamp.clock.isSome
  | none => false

/-! ## Values -/

def offset : Zone → Except Calendar.Error QueryBridge.Offset
  | .universal => .ok .utc
  | .offset negative hours minutes =>
      let distance : Int := hours * 60 + minutes
      Offset.make (if negative then -distance else distance)

def toDatum (timestamp : Timestamp) : Except Calendar.Error Datum := do
  match timestamp.clock with
  | none => return .date (← Date.make timestamp.year timestamp.month timestamp.day)
  | some clock =>
      let zone ← clock.zone.mapM offset
      let date ← Date.make timestamp.year timestamp.month timestamp.day
      let time ← Time.make clock.hour clock.minute clock.second clock.microsecond
      return .dateTime date time zone

end Timestamp

end QueryBridge.Yaml
