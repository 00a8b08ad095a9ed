import QueryBridge.Text.Percent
import QueryBridge.Toml.Error

/-!
# Texts and comments in TOML

A text stands between quotes.  Between single quotes every character stands for itself;
between double quotes a backslash begins an escape.  Three quotes enclose a text of
several lines, which loses a line end at its beginning and may end with up to two
quotes of its own.
-/

namespace QueryBridge.Toml

/-! ## Characters -/

def isSpace (c : Char) : Bool :=
  c == ' ' || c == '\t'

def isSpaceOrBreak (c : Char) : Bool :=
  isSpace c || c == '\n'

/-- Whether a character may stand in a line: no control character but the tab. -/
def isLineChar (c : Char) : Bool :=
  c == '\t' || (0x20 ≤ c.toNat && c.toNat != 0x7F)

def isTextChar (manyLines : Bool) (c : Char) : Bool :=
  isLineChar c || (manyLines && c == '\n')

def skipSpaces (text : List Char) : List Char :=
  text.dropWhile isSpace

/-! ## Comments -/

/-- Skips a comment, if one begins here. -/
def skipComment (text : List Char) : Except Error (List Char) :=
  match text with
  | '#' :: rest =>
      if (rest.takeWhile (· != '\n')).all isLineChar then .ok (rest.dropWhile (· != '\n'))
      else .error .malformed
  | text => .ok text

/-- Skips blanks, ends of lines and comments. -/
def skipGaps : Nat → List Char → Except Error (List Char)
  | 0, text => .ok text
  | fuel + 1, text => do
      match text.dropWhile isSpaceOrBreak with
      | '#' :: rest => skipGaps fuel (← skipComment ('#' :: rest))
      | rest => return rest

/-! ## Escapes -/

/-- The character whose code the digits give. -/
def codeChar? (digits : List Char) : Option Char := do
  let values ← digits.mapM Text.Percent.hexValue?
  let code := values.foldl (fun total digit => total * 16 + digit) 0
  if code < 0xD800 || (0xE000 ≤ code && code < 0x110000) then some (Char.ofNat code) else none

/-- The character that an escape stands for; the backslash is already read. -/
def escape? : List Char → Option (Char × List Char)
  | 'b' :: rest => some ('\x08', rest)
  | 't' :: rest => some ('\t', rest)
  | 'n' :: rest => some ('\n', rest)
  | 'f' :: rest => some ('\x0C', rest)
  | 'r' :: rest => some ('\r', rest)
  | '"' :: rest => some ('"', rest)
  | '\\' :: rest => some ('\\', rest)
  | 'u' :: rest =>
      if rest.length < 4 then none
      else (codeChar? (rest.take 4)).map fun c => (c, rest.drop 4)
  | 'U' :: rest =>
      if rest.length < 8 then none
      else (codeChar? (rest.take 8)).map fun c => (c, rest.drop 8)
  | _ => none

/-- Behind a backslash at the end of a line: the text without the gap that follows. -/
def joinedLines? (text : List Char) : Option (List Char) :=
  match skipSpaces text with
  | '\n' :: rest => some (rest.dropWhile isSpaceOrBreak)
  | _ => none

/-! ## Texts -/

/-- Up to two more quotes behind the three that end a text. -/
def moreQuotes (quote : Char) (text : List Char) : List Char × List Char :=
  let quotes := (text.take 2).takeWhile (· == quote)
  (quotes, text.drop quotes.length)

/-- Puts characters in front of a text that was read. -/
def withFront (front : List Char) (read : Except Error (List Char × List Char)) :
    Except Error (List Char × List Char) :=
  read.map fun result => (front ++ result.1, result.2)

/-- Reads up to the quotes that end a text with escapes.  Every step takes at least one
character. -/
def escapedText (manyLines : Bool) : Nat → List Char → Except Error (List Char × List Char)
  | 0, _ | _, [] => .error .malformed
  | fuel + 1, '"' :: rest =>
      if !manyLines then .ok ([], rest)
      else
        match rest with
        | '"' :: '"' :: rest => .ok (moreQuotes '"' rest)
        | rest => withFront ['"'] (escapedText manyLines fuel rest)
  | fuel + 1, '\\' :: rest =>
      match if manyLines then joinedLines? rest else none with
      | some rest => escapedText manyLines fuel rest
      | none =>
          match escape? rest with
          | some (c, rest) => withFront [c] (escapedText manyLines fuel rest)
          | none => .error .malformed
  | fuel + 1, c :: rest =>
      if isTextChar manyLines c then withFront [c] (escapedText manyLines fuel rest)
      else .error .malformed

/-- Reads up to the quotes that end a text without escapes. -/
def literalText (manyLines : Bool) : List Char → Except Error (List Char × List Char)
  | [] => .error .malformed
  | '\'' :: rest =>
      if !manyLines then .ok ([], rest)
      else
        match rest with
        | '\'' :: '\'' :: after => .ok (moreQuotes '\'' after)
        | rest => withFront ['\''] (literalText manyLines rest)
  | c :: rest =>
      if isTextChar manyLines c then withFront [c] (literalText manyLines rest)
      else .error .malformed

/-- The text without a line end at its beginning. -/
def dropFirstBreak : List Char → List Char
  | '\n' :: rest => rest
  | text => text

/-- Reads a text in quotes, if one begins here. -/
def quotedText? : List Char → Option (Except Error (List Char × List Char))
  | '"' :: '"' :: '"' :: rest =>
      some (escapedText true (rest.length + 1) (dropFirstBreak rest))
  | '"' :: rest => some (escapedText false (rest.length + 1) rest)
  | '\'' :: '\'' :: '\'' :: rest => some (literalText true (dropFirstBreak rest))
  | '\'' :: rest => some (literalText false rest)
  | _ => none

end QueryBridge.Toml
