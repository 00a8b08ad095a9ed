import QueryBridge.Json.Display

/-!
# Messages with arguments

A message may hold places for its arguments: `%s` shows an argument, `%r` its literal,
and `%d` a whole number; `%%` is a percent sign.  A message without arguments is taken
as it is.
-/

namespace QueryBridge.Log.Message

/-- Why arguments do not fit a message. -/
inductive Error where
  /-- The message ends behind a percent sign. -/
  | incomplete
  | unknownPlace (letter : Char) (index : Nat)
  | tooFewArguments
  | tooManyArguments
  /-- `%d` with something that is no number. -/
  | notNumber
  /-- `%d` with no number or an infinity. -/
  | noNumber
  | infinite
deriving Repr, DecidableEq

/-- A letter as the error shows it; all but the common ASCII characters are not shown. -/
def shownLetter (letter : Char) : Char :=
  if 31 ≤ letter.toNat && letter.toNat < 126 then letter else '?'

def Error.message : Error → String
  | .incomplete => "incomplete format"
  | .unknownPlace letter index =>
      "unsupported format character '" ++ (shownLetter letter).toString ++ "' (0x" ++
        String.ofList (Nat.toDigits 16 letter.toNat) ++ ") at index " ++ toString index
  | .tooFewArguments => "not enough arguments for format string"
  | .tooManyArguments => "not all arguments converted during string formatting"
  | .notNumber => "%d format: a real number is required"
  | .noNumber => "cannot convert float NaN to integer"
  | .infinite => "cannot convert float infinity to integer"

/-- The digits of a number; a fraction is cut off. -/
def whole : Json.Value → Except Error String
  | .int value => .ok (toString value)
  | .bool value => .ok (if value then "1" else "0")
  | .float .nan => .error .noNumber
  | .float value =>
      match value.truncate? with
      | some whole => .ok (toString whole)
      | none => .error .infinite
  | _ => .error .notNumber

def fillPlace (letter : Char) (index : Nat) (argument : Json.Value) :
    Except Error CodeString :=
  match letter with
  | 's' => .ok argument.display
  | 'r' => .ok argument.literal
  | 'd' => (whole argument).map .text
  | _ => .error (.unknownPlace letter index)

/-- Fills the places from left to right. -/
def fill (index : Nat) :
    List Char → List Json.Value → Except Error (CodeString × List Json.Value)
  | [], arguments => .ok ("", arguments)
  | ['%'], _ => .error .incomplete
  | '%' :: '%' :: text, arguments => do
      let filled ← fill (index + 2) text arguments
      return ("%" ++ filled.1, filled.2)
  | '%' :: letter :: text, arguments =>
      match arguments with
      | [] => .error .tooFewArguments
      | argument :: arguments => do
          let shown ← fillPlace letter (index + 1) argument
          let filled ← fill (index + 2) text arguments
          return (shown ++ filled.1, filled.2)
  | c :: text, arguments => do
      let filled ← fill (index + 1) text arguments
      return (c.toString ++ filled.1, filled.2)

/-- Whether the arguments are a single object, which may be left over. -/
def isSingleObject : List Json.Value → Bool
  | [.object (_ :: _)] => true
  | _ => false

/-- The message with its arguments in their places. -/
def format (text : String) (arguments : List Json.Value) : Except Error CodeString :=
  if arguments.isEmpty then .ok text
  else do
    let filled ← fill 0 text.toList arguments
    if filled.2.isEmpty || isSingleObject arguments then return filled.1
    else .error .tooManyArguments

end QueryBridge.Log.Message
