import QueryBridge.Text.CodeString
import QueryBridge.Text.Printable

/-!
# Quoted text

A text inside a message is put between quotes with its unprintable characters
escaped.  The quotes are apostrophes unless the text holds an apostrophe and no
double quote.
-/

namespace QueryBridge.Text

/-- The digits of a code point in small hexadecimal, filled with zeros on the left. -/
def hexDigits (width code : Nat) : List Char :=
  let digits := Nat.toDigits 16 code
  List.replicate (width - digits.length) '0' ++ digits

/-- The escape for a code point: two, four or eight digits, as few as suffice. -/
def escapeCode (code : Nat) : List Char :=
  if code < 0x100 then '\\' :: 'x' :: hexDigits 2 code
  else if code < 0x10000 then '\\' :: 'u' :: hexDigits 4 code
  else '\\' :: 'U' :: hexDigits 8 code

private def quoteChar (quote c : Char) : List Char :=
  if c = quote || c = '\\' then ['\\', c]
  else if c = '\n' then ['\\', 'n']
  else if c = '\r' then ['\\', 'r']
  else if c = '\t' then ['\\', 't']
  else if isPrintable c then [c]
  else escapeCode c.toNat

private def quoteFor (holdsApostrophe holdsDouble : Bool) : Char :=
  if holdsApostrophe && !holdsDouble then '"' else '\''

def quotedChars (text : List Char) : List Char :=
  let quote := quoteFor (text.contains '\'') (text.contains '"')
  quote :: text.flatMap (quoteChar quote) ++ [quote]

/-- The text between quotes, with its unprintable characters escaped. -/
def quoted (text : String) : String :=
  String.ofList (quotedChars text.toList)

/-- The quoted form of a sequence of code points that may hold surrogates, which are
escaped. -/
def quotedCodes (codes : List Nat) : String :=
  let quote := quoteFor (codes.contains '\''.toNat) (codes.contains '"'.toNat)
  let body := codes.flatMap fun code =>
    if code.isValidChar then quoteChar quote (Char.ofNat code) else escapeCode code
  String.ofList (quote :: body ++ [quote])

def quotedString : CodeString → String
  | .text value => quoted value
  | .broken value => quotedCodes value.codes

end QueryBridge.Text
