import QueryBridge.Text.Quoted

/-!
# Dates and times

Dates are those of the Gregorian calendar from year 1 to 9999.  A time has
microseconds, and with a date it may have an offset of less than a day, in minutes.
-/

namespace QueryBridge

namespace Calendar

inductive Error where
  | year (number : Nat)
  | month
  | day
  | hour
  | minute
  | second
  /-- An offset of a day or more, in minutes. -/
  | offset (minutes : Int)
deriving Repr, DecidableEq

/-- A span of minutes as days and seconds, where the seconds are not negative. -/
def span (minutes : Int) : String :=
  let days := minutes.fdiv 1440
  let seconds := minutes.fmod 1440 * 60
  let parts :=
    (if days = 0 then [] else ["days=" ++ toString days]) ++
    (if seconds = 0 then [] else ["seconds=" ++ toString seconds])
  "datetime.timedelta(" ++ (if parts.isEmpty then "0" else String.intercalate ", " parts) ++ ")"

def Error.message : Error → String
  | .year number => "year " ++ toString number ++ " is out of range"
  | .month => "month must be in 1..12"
  | .day => "day is out of range for month"
  | .hour => "hour must be in 0..23"
  | .minute => "minute must be in 0..59"
  | .second => "second must be in 0..59"
  | .offset distance =>
      "offset must be a timedelta strictly between -timedelta(hours=24) and " ++
        "timedelta(hours=24), not " ++ span distance ++ "."

/-- A number with at least `width` digits. -/
def padded (width n : Nat) : String :=
  let digits := Nat.toDigits 10 n
  String.ofList (List.replicate (width - digits.length) '0' ++ digits)

def isLeapYear (year : Nat) : Bool :=
  year % 4 == 0 && (year % 100 != 0 || year % 400 == 0)

def daysInMonth (year month : Nat) : Nat :=
  if month = 2 then (if isLeapYear year then 29 else 28)
  else if month = 4 || month = 6 || month = 9 || month = 11 then 30
  else 31

end Calendar

/-! ## Dates -/

structure Date where
  year : Nat
  month : Nat
  day : Nat
deriving Repr, DecidableEq

namespace Date

def make (year month day : Nat) : Except Calendar.Error Date :=
  if year = 0 || 9999 < year then .error (.year year)
  else if month = 0 || 12 < month then .error .month
  else if day = 0 || Calendar.daysInMonth year month < day then .error .day
  else .ok ⟨year, month, day⟩

def display (date : Date) : String :=
  Calendar.padded 4 date.year ++ "-" ++ Calendar.padded 2 date.month ++ "-" ++
    Calendar.padded 2 date.day

def numbers (date : Date) : List Nat :=
  [date.year, date.month, date.day]

end Date

/-! ## Times -/

structure Time where
  hour : Nat
  minute : Nat
  second : Nat
  microsecond : Nat
deriving Repr, DecidableEq

namespace Time

def make (hour minute second microsecond : Nat) : Except Calendar.Error Time :=
  if 23 < hour then .error .hour
  else if 59 < minute then .error .minute
  else if 59 < second then .error .second
  else .ok ⟨hour, minute, second, microsecond⟩

/-- Microseconds are shown only if there are any. -/
def display (time : Time) : String :=
  Calendar.padded 2 time.hour ++ ":" ++ Calendar.padded 2 time.minute ++ ":" ++
    Calendar.padded 2 time.second ++
    (if time.microsecond = 0 then "" else "." ++ Calendar.padded 6 time.microsecond)

/-- The numbers of a time without zeros at the end, but at least hour and minute. -/
def numbers (time : Time) : List Nat :=
  [time.hour, time.minute] ++
    (if time.microsecond = 0 then
      (if time.second = 0 then [] else [time.second])
    else [time.second, time.microsecond])

end Time

/-! ## Offsets -/

/-- A distance from universal time in minutes, less than a day. -/
structure Offset where
  minutes : Int
deriving Repr, DecidableEq

namespace Offset

def utc : Offset := ⟨0⟩

def make (minutes : Int) : Except Calendar.Error Offset :=
  if minutes.natAbs < 1440 then .ok ⟨minutes⟩ else .error (.offset minutes)

def display (offset : Offset) : String :=
  (if offset.minutes < 0 then "-" else "+") ++
    Calendar.padded 2 (offset.minutes.natAbs / 60) ++ ":" ++
    Calendar.padded 2 (offset.minutes.natAbs % 60)

def literal (offset : Offset) : String :=
  if offset.minutes = 0 then "datetime.timezone.utc"
  else "datetime.timezone(" ++ Calendar.span offset.minutes ++ ")"

end Offset

end QueryBridge
