/-!
# A place in a YAML text

A cursor is the text that is still to be read, with the position of its first
character.  A line ends at a line feed, a carriage return, a next-line character or
one of the two separators; a byte order mark takes no column.
-/

namespace QueryBridge.Yaml

structure Cursor where
  rest : List Char
  index : Nat
  line : Nat
  column : Nat
deriving Repr

/-! ## Classes of characters -/

def isBreak (c : Char) : Bool :=
  c == '\n' || c == '\r' || c == '\x85' || c == '\u2028' || c == '\u2029'

def isSpaceOrBreak (c : Char) : Bool :=
  c == ' ' || isBreak c

def isGap (c : Char) : Bool :=
  c == ' ' || c == '\t' || isBreak c

/-- Letters and digits of ASCII, the minus sign and the underscore. -/
def isNameChar (c : Char) : Bool :=
  c.isAlphanum || c == '-' || c == '_'

def isHex (c : Char) : Bool :=
  c.isDigit || ('a' ≤ c && c ≤ 'f') || ('A' ≤ c && c ≤ 'F')

namespace Cursor

def ofText (text : List Char) : Cursor :=
  ⟨text, 0, 0, 0⟩

/-! ## Looking ahead -/

def atEnd (cursor : Cursor) : Bool :=
  cursor.rest.isEmpty

def peek? (cursor : Cursor) (distance : Nat) : Option Char :=
  cursor.rest[distance]?

/-- Whether the text ends here or goes on with a character of the class. -/
def endOr (p : Char → Bool) (cursor : Cursor) (distance : Nat) : Bool :=
  (cursor.peek? distance).all p

/-- Whether the text goes on with a character of the class. -/
def sees (p : Char → Bool) (cursor : Cursor) : Bool :=
  cursor.rest.head?.any p

/-- Whether a line of three equal characters separates documents here. -/
def atSeparator (cursor : Cursor) : Bool :=
  (['-', '-', '-'].isPrefixOf cursor.rest || ['.', '.', '.'].isPrefixOf cursor.rest) &&
    cursor.endOr isGap 3

/-! ## Moving on -/

def next (cursor : Cursor) : Cursor :=
  match cursor.rest with
  | [] => cursor
  | c :: rest =>
      if isBreak c && !(c == '\r' && rest.head? == some '\n') then
        ⟨rest, cursor.index + 1, cursor.line + 1, 0⟩
      else if c = '\uFEFF' then
        ⟨rest, cursor.index + 1, cursor.line, cursor.column⟩
      else
        ⟨rest, cursor.index + 1, cursor.line, cursor.column + 1⟩

def forward (cursor : Cursor) : Nat → Cursor
  | 0 => cursor
  | count + 1 => cursor.next.forward count

/-- The longest run of characters of a class, and the cursor behind it. -/
def run (p : Char → Bool) (cursor : Cursor) : List Char × Cursor :=
  let taken := cursor.rest.takeWhile p
  (taken, cursor.forward taken.length)

def skip (p : Char → Bool) (cursor : Cursor) : Cursor :=
  (cursor.run p).2

/-- A line break as it counts in a scalar: every kind but the separators counts as a
line feed.  Nothing is read if no line ends here. -/
def lineBreak (cursor : Cursor) : List Char × Cursor :=
  match cursor.rest with
  | '\r' :: '\n' :: _ => (['\n'], cursor.forward 2)
  | c :: _ =>
      if c = '\u2028' || c = '\u2029' then ([c], cursor.next)
      else if isBreak c then (['\n'], cursor.next)
      else ([], cursor)
  | [] => ([], cursor)

/-- Skips a comment, if one begins here. -/
def skipComment (cursor : Cursor) : Cursor :=
  if cursor.sees (· == '#') then cursor.skip (fun c => !isBreak c) else cursor

/-- Skips the rest of a line that must hold nothing but a comment. -/
def restOfLine? (cursor : Cursor) : Option Cursor :=
  let cursor := (cursor.skip (· == ' ')).skipComment
  if cursor.endOr isBreak 0 then some cursor.lineBreak.2 else none

end Cursor

end QueryBridge.Yaml
