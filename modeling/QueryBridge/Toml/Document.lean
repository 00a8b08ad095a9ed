import QueryBridge.Runtime
import QueryBridge.Toml.Scalar
import QueryBridge.Toml.Table

/-!
# From a TOML text to its value

A document is read line by line: headers, entries, comments and empty lines.  Values
may contain values, so they are read by descent; each step takes at least one
character, and the calls inside each other are bounded.

The text is read up to its end or its first error.  What is wrong with the sections in
front of that error is met first.
-/

namespace QueryBridge.Toml

/-! ## Keys -/

def isNameChar (c : Char) : Bool :=
  c.isAlphanum || c == '-' || c == '_'

/-- One name of a path: bare, or in quotes within one line. -/
def name (text : List Char) : Except Error (String × List Char) :=
  match text with
  | '"' :: rest =>
      (escapedText false (rest.length + 1) rest).map fun read => (String.ofList read.1, read.2)
  | '\'' :: rest => (literalText false rest).map fun read => (String.ofList read.1, read.2)
  | text =>
      let bare := text.takeWhile isNameChar
      if bare.isEmpty then .error .malformed
      else .ok (String.ofList bare, text.drop bare.length)

/-- A path, with points between its names. -/
def path : Nat → List Char → Except Error (Path × List Char)
  | 0, _ => .error .malformed
  | fuel + 1, text => do
      let (first, rest) ← name text
      match skipSpaces rest with
      | '.' :: rest =>
          let (others, rest) ← path fuel (skipSpaces rest)
          return (⟨first :: others.parents, others.name⟩, rest)
      | rest => return (⟨[], first⟩, rest)

/-- A path and the mark of a value. -/
def key (text : List Char) : Except Error (Path × List Char) := do
  match ← path (text.length + 1) text with
  | (path, '=' :: rest) => return (path, skipSpaces rest)
  | _ => throw .malformed

/-! ## Values -/

/-- The calls inside a list, which is read in two of them. -/
def callsInList (calls : Nat) : Except Error Nat :=
  if calls < 2 then .error .tooDeep else .ok (calls - 2)

/-- The calls inside a table in braces, which is read in three of them. -/
def callsInTable (calls : Nat) : Except Error Nat :=
  if calls < 3 then .error .tooDeep else .ok (calls - 3)

mutual

/-- A value that is read in the given number of calls inside each other. -/
def value : Nat → Nat → List Char → Except Error (Datum × List Char)
  | 0, _, _ => .error .malformed
  | fuel + 1, calls, text =>
      match quotedText? text with
      | some read => read.map fun read => (.text (String.ofList read.1), read.2)
      | none =>
          match text with
          | '[' :: rest => do
              let calls ← callsInList calls
              let rest ← skipGaps (rest.length + 1) rest
              let (items, rest) ← items fuel calls rest
              return (.list items, rest)
          | '\x7b' :: rest => do
              match skipSpaces rest with
              | '\x7d' :: rest => return (.mapping [], rest)
              | rest =>
                  let calls ← callsInTable calls
                  let (contents, rest) ← inlineEntries fuel calls [] rest
                  return (contents.toDatum, rest)
          | text => scalar text

/-- The items of a list up to its end. -/
def items : Nat → Nat → List Char → Except Error (List Datum × List Char)
  | 0, _, _ => .error .malformed
  | _, _, ']' :: rest => .ok ([], rest)
  | fuel + 1, calls, text => do
      let (item, rest) ← value fuel calls text
      match ← skipGaps (rest.length + 1) rest with
      | ',' :: rest =>
          let (others, rest) ← items fuel calls (← skipGaps (rest.length + 1) rest)
          return (item :: others, rest)
      | ']' :: rest => return ([item], rest)
      | _ => throw .malformed

/-- The entries of a table in braces, behind those that are read. -/
def inlineEntries : Nat → Nat → Contents → List Char → Except Error (Contents × List Char)
  | 0, _, _, _ => .error .malformed
  | fuel + 1, calls, contents, text => do
      let (path, rest) ← key text
      let (value, rest) ← value fuel calls rest
      match contents.assign value path.name path.parents with
      | none => throw .malformed
      | some contents =>
          match skipSpaces rest with
          | ',' :: rest => inlineEntries fuel calls contents (skipSpaces rest)
          | '\x7d' :: rest => return (contents, rest)
          | _ => throw .malformed

end

/-! ## Lines -/

/-- What a line holds. -/
inductive Line where
  | header (header : Header)
  | entry (entry : Entry)
  | empty

/-- Reads a line up to its comment. -/
def lineContent [Runtime] (text : List Char) : Except Error (Line × List Char) := do
  match text with
  | [] | '\n' :: _ | '#' :: _ => return (.empty, text)
  | '[' :: '[' :: rest =>
      match ← path (rest.length + 1) (skipSpaces rest) with
      | (path, ']' :: ']' :: rest) => return (.header (.element path), rest)
      | _ => throw .malformed
  | '[' :: rest =>
      match ← path (rest.length + 1) (skipSpaces rest) with
      | (path, ']' :: rest) => return (.header (.table path), rest)
      | _ => throw .malformed
  | text =>
      let (path, rest) ← key text
      let (value, rest) ← value (rest.length + 1) Runtime.tomlCalls rest
      return (.entry ⟨path, value⟩, rest)

/-- The lines of a text up to its end or its first error. -/
def lines [Runtime] : Nat → List Char → List Line × Option Error
  | 0, _ => ([], some .malformed)
  | _, [] => ([], none)
  | fuel + 1, text =>
      match lineContent (skipSpaces text) with
      | .error error => ([], some error)
      | .ok (line, rest) =>
          match skipComment (skipSpaces rest) with
          | .error error => ([line], some error)
          | .ok [] => ([line], none)
          | .ok ('\n' :: rest) =>
              let others := lines fuel rest
              (line :: others.1, others.2)
          | .ok _ => ([line], some .malformed)

/-- The sections that lines form; the first one has no header. -/
def sections (lines : List Line) : List Section :=
  let parts := lines.foldr (fun line (parts : List Entry × List Section) =>
    match line with
    | .empty => parts
    | .entry entry => (entry :: parts.1, parts.2)
    | .header header => ([], ⟨header, parts.1⟩ :: parts.2)) ([], [])
  ⟨.root, parts.1⟩ :: parts.2

/-! ## Documents -/

/-- A carriage return in front of a line feed does not count. -/
def dropReturns : List Char → List Char
  | '\r' :: '\n' :: rest => '\n' :: dropReturns rest
  | c :: rest => c :: dropReturns rest
  | [] => []

/-- The contents of the document in a text. -/
def read [Runtime] (text : List Char) : Except Error Contents := do
  let text := dropReturns text
  let (lines, error) := lines (text.length + 1) text
  match Contents.ofSections (sections lines), error with
  | none, _ => throw .malformed
  | some _, some error => throw error
  | some contents, none => return contents

end QueryBridge.Toml
