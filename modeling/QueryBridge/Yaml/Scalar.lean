import QueryBridge.Text.Percent
import QueryBridge.Yaml.Cursor
import QueryBridge.Yaml.Error

/-!
# Reading YAML scalars

A scalar is plain, between quotes of either kind, or a block.  A plain or quoted scalar
may go over several lines: a line break inside it counts as a space, unless empty
lines follow, which count as line breaks themselves.  A block scalar keeps its lines,
or folds them by the same rule.
-/

namespace QueryBridge.Yaml

open Cursor

/-! ## Folding -/

/-- What a line break and the empty lines after it count as in a folded scalar. -/
def folded (first : List Char) (breaks : List Char) : List Char :=
  if first ≠ ['\n'] then first ++ breaks
  else if breaks.isEmpty then [' ']
  else breaks

/-! ## Plain scalars -/

/-- The beginning of a text up to where a plain scalar pauses: at a gap, at a colon that
separates, and in a flow collection at its punctuation. -/
def plainRun (inFlow : Bool) : List Char → List Char
  | [] => []
  | c :: rest =>
      let pauses :=
        if isGap c then true
        else if c = ':' then
          rest.head?.all fun d => isGap d || (inFlow && ",[]\x7b\x7d".toList.contains d)
        else inFlow && ",?[]\x7b\x7d".toList.contains c
      if pauses then [] else c :: plainRun inFlow rest

/-- The empty lines after the first line break of a gap in a plain scalar: their breaks,
or nothing if documents are separated there. -/
def plainBreaks : Nat → Cursor → Option (List Char) × Cursor
  | 0, cursor => (some [], cursor)
  | fuel + 1, cursor =>
      if cursor.sees (· == ' ') then plainBreaks fuel cursor.next
      else if cursor.sees isBreak then
        let found := cursor.lineBreak
        if found.2.atSeparator then (none, found.2)
        else
          let others := plainBreaks fuel found.2
          (others.1.map (found.1 ++ ·), others.2)
      else (some [], cursor)

/-- A gap in a plain scalar: what it counts as, whether it holds a line break, and the
cursor behind it. -/
def plainGap (cursor : Cursor) : List Char × Bool × Cursor :=
  let spaces := cursor.run (· == ' ')
  if spaces.2.sees isBreak then
    let first := spaces.2.lineBreak
    if first.2.atSeparator then ([], true, first.2)
    else
      let breaks := plainBreaks (first.2.rest.length + 1) first.2
      match breaks.1 with
      | none => ([], true, breaks.2)
      | some chars => (folded first.1 chars, true, breaks.2)
  else (spaces.1, false, spaces.2)

/-- A plain scalar: its text, whether it ends behind a line break, and the cursor. -/
def plainFrom (inFlow : Bool) (indent : Nat) :
    Nat → Cursor → List Char → Bool → List Char × Bool × Cursor
  | 0, cursor, _, brokenLine => ([], brokenLine, cursor)
  | fuel + 1, cursor, gap, brokenLine =>
      if cursor.sees (· == '#') then ([], brokenLine, cursor)
      else
        let run := plainRun inFlow cursor.rest
        if run.isEmpty then ([], brokenLine, cursor)
        else
          let chunk := gap ++ run
          let next := plainGap (cursor.forward run.length)
          if next.1.isEmpty || next.2.2.sees (· == '#') ||
              (!inFlow && next.2.2.column < indent) then
            (chunk, next.2.1, next.2.2)
          else
            let others := plainFrom inFlow indent fuel next.2.2 next.1 next.2.1
            (chunk ++ others.1, others.2.1, others.2.2)

def plainScalar (inFlow : Bool) (indent : Nat) (cursor : Cursor) :
    List Char × Bool × Cursor :=
  plainFrom inFlow indent (cursor.rest.length + 1) cursor [] false

/-! ## Quoted scalars -/

/-- The character that a letter after a backslash stands for. -/
def shortEscape? (c : Char) : Option Char :=
  match c with
  | '0' => some '\x00'
  | 'a' => some '\x07'
  | 'b' => some '\x08'
  | 't' => some '\t'
  | '\t' => some '\t'
  | 'n' => some '\n'
  | 'v' => some '\x0b'
  | 'f' => some '\x0c'
  | 'r' => some '\r'
  | 'e' => some '\x1b'
  | ' ' => some ' '
  | '"' => some '"'
  | '\\' => some '\\'
  | '/' => some '/'
  | 'N' => some '\x85'
  | '_' => some '\xa0'
  | 'L' => some '\u2028'
  | 'P' => some '\u2029'
  | _ => none

/-- The count of hexadecimal digits after a letter. -/
def escapeDigits? (c : Char) : Option Nat :=
  match c with
  | 'x' => some 2
  | 'u' => some 4
  | 'U' => some 8
  | _ => none

def hexNumber (digits : List Char) : Nat :=
  digits.foldl (fun value digit => value * 16 + (Text.Percent.hexValue? digit).getD 0) 0

/-- The character with a code point. -/
def codeChar (code : Nat) : Except Fault Char :=
  if 0x7FFFFFFF < code then .error .codePointSize
  else if 0x10FFFF < code then .error .codePoint
  else if code.isValidChar then .ok (Char.ofNat code)
  else .error .surrogate

/-- The empty lines inside a quoted scalar. -/
def quotedBreaks : Nat → Cursor → Except Fault (List Char × Cursor)
  | 0, cursor => .ok ([], cursor)
  | fuel + 1, cursor =>
      if cursor.atSeparator then .error .syntaxError
      else
        let cursor := cursor.skip fun c => c == ' ' || c == '\t'
        if cursor.sees isBreak then do
          let first := cursor.lineBreak
          let others ← quotedBreaks fuel first.2
          return (first.1 ++ others.1, others.2)
        else .ok ([], cursor)

/-- Reads an escape behind its backslash. -/
def escape (cursor : Cursor) : Except Fault (List Char × Cursor) :=
  match cursor.rest with
  | [] => .error .syntaxError
  | c :: rest =>
      match shortEscape? c, escapeDigits? c with
      | some escaped, _ => .ok ([escaped], cursor.next)
      | none, some count =>
          let digits := rest.take count
          if digits.length = count && digits.all isHex then do
            let escaped ← codeChar (hexNumber digits)
            return ([escaped], cursor.forward (count + 1))
          else .error .syntaxError
      | none, none =>
          if isBreak c then
            let after := cursor.lineBreak.2
            quotedBreaks (after.rest.length + 1) after
          else .error .syntaxError

/-- Blanks or a line break inside a quoted scalar. -/
def quotedGap (cursor : Cursor) : Except Fault (List Char × Cursor) :=
  let spaces := cursor.run fun c => c == ' ' || c == '\t'
  if spaces.2.atEnd then .error .syntaxError
  else if spaces.2.sees isBreak then do
    let first := spaces.2.lineBreak
    let breaks ← quotedBreaks (first.2.rest.length + 1) first.2
    return (folded first.1 breaks.1, breaks.2)
  else .ok spaces

/-- The inner text of a quoted scalar, and the cursor behind the closing quote. -/
def quotedFrom (double : Bool) : Nat → Cursor → Except Fault (List Char × Cursor)
  | 0, _ => .error .syntaxError
  | fuel + 1, cursor =>
      match cursor.rest with
      | [] => .error .syntaxError
      | c :: rest =>
          if !double && c = '\'' then
            if rest.head? = some '\'' then do
              let others ← quotedFrom double fuel (cursor.forward 2)
              return ('\'' :: others.1, others.2)
            else .ok ([], cursor.next)
          else if double && c = '"' then .ok ([], cursor.next)
          else if double && c = '\\' then do
            let escaped ← escape cursor.next
            let others ← quotedFrom double fuel escaped.2
            return (escaped.1 ++ others.1, others.2)
          else if isGap c then do
            let gap ← quotedGap cursor
            let others ← quotedFrom double fuel gap.2
            return (gap.1 ++ others.1, others.2)
          else do
            let others ← quotedFrom double fuel cursor.next
            return (c :: others.1, others.2)

def quotedScalar (double : Bool) (cursor : Cursor) : Except Fault (List Char × Cursor) :=
  quotedFrom double (cursor.rest.length + 1) cursor.next

/-! ## Block scalars -/

/-- What becomes of the line breaks at the end of a block. -/
inductive Chomping where
  | clip
  | strip
  | keep
deriving Repr, DecidableEq

def chompingSign? : Option Char → Option Chomping
  | some '+' => some .keep
  | some '-' => some .strip
  | _ => none

/-- A digit from one to nine; a zero is not admitted. -/
def incrementDigit (c : Option Char) : Except Fault (Option Nat) :=
  match c with
  | some c =>
      if c = '0' then .error .syntaxError
      else if c.isDigit then .ok (some (c.toNat - 48))
      else .ok none
  | none => .ok none

/-- The signs behind `|` or `>`, in either order. -/
def blockSigns (cursor : Cursor) : Except Fault (Chomping × Option Nat × Cursor) := do
  let signs ← match chompingSign? (cursor.peek? 0) with
    | some chomping =>
        match ← incrementDigit (cursor.peek? 1) with
        | some increment => pure (chomping, some increment, cursor.forward 2)
        | none => pure (chomping, none, cursor.next)
    | none =>
        match ← incrementDigit (cursor.peek? 0) with
        | some increment =>
            match chompingSign? (cursor.peek? 1) with
            | some chomping => pure (chomping, some increment, cursor.forward 2)
            | none => pure (.clip, some increment, cursor.next)
        | none => pure (.clip, none, cursor)
  if signs.2.2.endOr isSpaceOrBreak 0 then return signs else .error .syntaxError

/-- The empty lines before the first line with content: their breaks, and the greatest
column in front of them. -/
def blockLead : Nat → Cursor → Nat → List Char × Nat × Cursor
  | 0, cursor, widest => ([], widest, cursor)
  | fuel + 1, cursor, widest =>
      if cursor.sees isBreak then
        let first := cursor.lineBreak
        let others := blockLead fuel first.2 widest
        (first.1 ++ others.1, others.2)
      else if cursor.sees (· == ' ') then
        let cursor := cursor.next
        blockLead fuel cursor (max widest cursor.column)
      else ([], widest, cursor)

/-- Skips spaces up to a column. -/
def skipIndent (indent : Nat) (cursor : Cursor) : Cursor :=
  let spaces := (cursor.rest.takeWhile (· == ' ')).length
  cursor.forward (min spaces (indent - cursor.column))

/-- The empty lines of a block whose lines begin at the column `indent`. -/
def blockBreaks (indent : Nat) : Nat → Cursor → List Char × Cursor
  | 0, cursor => ([], cursor)
  | fuel + 1, cursor =>
      let cursor := skipIndent indent cursor
      if cursor.sees isBreak then
        let first := cursor.lineBreak
        let others := blockBreaks indent fuel first.2
        (first.1 ++ others.1, others.2)
      else ([], cursor)

/-- The lines of a block, its last line break, and the empty lines behind it. -/
structure BlockLines where
  text : List Char
  lastBreak : List Char
  breaks : List Char
  cursor : Cursor

/-- Whether the cursor is at a line of the block. -/
def atBlockLine (indent : Nat) (cursor : Cursor) : Bool :=
  cursor.column == indent && !cursor.atEnd

/-- Reads the lines of a block; `breaks` are the empty lines in front of the next one. -/
def blockLines (folds : Bool) (indent : Nat) : Nat → List Char → Cursor → BlockLines
  | 0, breaks, cursor => ⟨[], [], breaks, cursor⟩
  | fuel + 1, breaks, cursor =>
      if !atBlockLine indent cursor then ⟨[], [], breaks, cursor⟩
      else
        let startsInk := !cursor.sees fun c => c == ' ' || c == '\t'
        let line := cursor.run fun c => !isBreak c
        let lineBreak := line.2.lineBreak
        let after := blockBreaks indent (lineBreak.2.rest.length + 1) lineBreak.2
        if atBlockLine indent after.2 then
          let joint :=
            if folds && lineBreak.1 == ['\n'] && startsInk &&
                !after.2.sees (fun c => c == ' ' || c == '\t') then
              if after.1.isEmpty then [' '] else []
            else lineBreak.1
          let others := blockLines folds indent fuel after.1 after.2
          { others with text := breaks ++ line.1 ++ joint ++ others.text }
        else
          ⟨breaks ++ line.1, lineBreak.1, after.1, after.2⟩

/-- A block scalar in a context with the indentation `indent`, if it has one. -/
def blockScalar (folds : Bool) (indent : Option Nat) (cursor : Cursor) :
    Except Fault (List Char × Cursor) := do
  let (chomping, increment, cursor) ← blockSigns cursor.next
  match cursor.restOfLine? with
  | none => .error .syntaxError
  | some cursor =>
      let least := match indent with
        | none => 1
        | some column => column + 1
      let fuel := cursor.rest.length + 1
      let (width, breaks, cursor) := match increment with
        | none =>
            let lead := blockLead fuel cursor 0
            (max least lead.2.1, lead.1, lead.2.2)
        | some increment =>
            let width := least + increment - 1
            let lead := blockBreaks width fuel cursor
            (width, lead.1, lead.2)
      let lines := blockLines folds width fuel breaks cursor
      let ending := match chomping with
        | .strip => []
        | .clip => lines.lastBreak
        | .keep => lines.lastBreak ++ lines.breaks
      return (lines.text ++ ending, lines.cursor)

end QueryBridge.Yaml
