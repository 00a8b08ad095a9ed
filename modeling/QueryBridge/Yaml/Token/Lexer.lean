import QueryBridge.Json.Token
import QueryBridge.Yaml.Scalar
import QueryBridge.Yaml.Token

/-!
# From a YAML text to its tokens

The lexer keeps the columns of the block collections that are open.  A token at a
smaller column closes collections; an entry, a key or a value at a greater one opens a
collection.

A key need not be marked: whether a node is one is known only at the colon behind it.
So the lexer remembers, for each level of flow collections, where the last node that
could be a key began.  The node must be on the line of its colon and at most
`maxKeyLength` characters in front of it.
-/

namespace QueryBridge.Yaml

/-- A node that is a key if a colon follows. -/
structure KeyCandidate where
  /-- The number of tokens in front of the node. -/
  position : Nat
  /-- In a block mapping that is open at its column, the node must be a key. -/
  required : Bool
  index : Nat
  line : Nat
  column : Nat
deriving Repr

structure Lexer where
  cursor : Cursor
  tokens : Array Token
  /-- The columns of the open block collections, the innermost first. -/
  columns : List Nat
  /-- The candidates of the open flow collections, the innermost first, and of the block
  context last. -/
  candidates : List (Option KeyCandidate)
  /-- Whether a key may begin here without a mark. -/
  allowsKey : Bool

/-- The greatest distance of a colon from the beginning of its key. -/
def maxKeyLength : Nat := 1024

abbrev Lexing := StateT Lexer (Except Fault)

namespace Lexer

def start (text : List Char) : Lexer :=
  ⟨.ofText text, #[], [], [none], true⟩

def inFlow (lexer : Lexer) : Bool :=
  1 < lexer.candidates.length

def isStale (cursor : Cursor) (candidate : KeyCandidate) : Bool :=
  candidate.line != cursor.line || maxKeyLength < cursor.index - candidate.index

/-! ## Candidates for keys -/

def syntaxError {α : Type} : Lexing α :=
  throw .syntaxError

/-- Drops the candidates that are too far away by now. -/
def dropStale : Lexing Unit := do
  let lexer ← get
  let stale := fun (candidate : Option KeyCandidate) => candidate.any (isStale lexer.cursor)
  if lexer.candidates.any fun candidate =>
      stale candidate && candidate.any KeyCandidate.required then
    syntaxError
  set { lexer with
    candidates := lexer.candidates.map fun candidate =>
      if stale candidate then none else candidate }

/-- Drops the candidate of the innermost level. -/
def dropCandidate : Lexing Unit := do
  let lexer ← get
  match lexer.candidates with
  | some candidate :: others =>
      if candidate.required then syntaxError
      set { lexer with candidates := none :: others }
  | _ => pure ()

/-- Makes the node that begins here a candidate, if a key may begin here. -/
def saveCandidate : Lexing Unit := do
  if (← get).allowsKey then
    dropCandidate
    modify fun lexer =>
      let candidate : KeyCandidate :=
        { position := lexer.tokens.size
          required := !lexer.inFlow && lexer.columns.head? == some lexer.cursor.column
          index := lexer.cursor.index
          line := lexer.cursor.line
          column := lexer.cursor.column }
      { lexer with candidates := some candidate :: lexer.candidates.drop 1 }

/-! ## Indentation -/

def emit (token : Token) : Lexing Unit :=
  modify fun lexer => { lexer with tokens := lexer.tokens.push token }

def allowKey (allows : Bool) : Lexing Unit :=
  modify fun lexer => { lexer with allowsKey := allows }

def moveTo (cursor : Cursor) : Lexing Unit :=
  modify fun lexer => { lexer with cursor := cursor }

/-- Closes the block collections whose columns `closes` picks; flow collections know no
indentation. -/
def closeWhile (closes : Nat → Bool) : Lexing Unit :=
  modify fun lexer =>
    if lexer.inFlow then lexer
    else
      let closed := lexer.columns.takeWhile closes
      { lexer with
        columns := lexer.columns.drop closed.length
        tokens := lexer.tokens ++ closed.map fun _ => Token.blockEnd }

def closeAll : Lexing Unit :=
  closeWhile fun _ => true

/-- Opens a block collection at a column, unless one at least as far to the right is
open.  Its mark is put in front of the token with the given number. -/
def openBlock (column : Nat) (mark : Token) (position : Nat) : Lexing Unit :=
  modify fun lexer =>
    if lexer.columns.head?.all (· < column) then
      { lexer with
        columns := column :: lexer.columns
        tokens := lexer.tokens.take position ++ #[mark] ++ lexer.tokens.drop position }
    else lexer

/-- Opens a block collection at the current column in the block context. -/
def openBlockHere (mark : Token) : Lexing Unit := do
  let lexer ← get
  if !lexer.inFlow then
    if lexer.allowsKey then openBlock lexer.cursor.column mark lexer.tokens.size
    else syntaxError

/-! ## Between tokens -/

/-- Skips spaces, comments and line breaks; a line break in the block context lets a key
begin. -/
def skipGap : Nat → Lexing Unit
  | 0 => pure ()
  | fuel + 1 => do
      let lexer ← get
      let cursor := (lexer.cursor.skip (· == ' ')).skipComment
      if cursor.sees isBreak then
        set { lexer with
          cursor := cursor.lineBreak.2
          allowsKey := lexer.allowsKey || !lexer.inFlow }
        skipGap fuel
      else
        set { lexer with cursor := cursor }

/-- Skips a byte order mark at the beginning of the text. -/
def skipByteOrderMark (lexer : Lexer) : Lexer :=
  if lexer.cursor.sees (· == '\uFEFF') then { lexer with cursor := lexer.cursor.next } else lexer

/-! ## Directives -/

/-- The decimal number that begins here.  It has as many digits as can be converted. -/
def digitsHere (cursor : Cursor) : Except Fault (Nat × Cursor) :=
  let digits := cursor.run Char.isDigit
  if digits.1.isEmpty then .error .syntaxError
  else if Json.Token.maxDigits < digits.1.length then .error (.tooManyDigits digits.1.length)
  else .ok (digits.1.foldl (fun value digit => value * 10 + (digit.toNat - 48)) 0, digits.2)

/-- The characters that an encoded name in a tag may hold. -/
def isUriChar (c : Char) : Bool :=
  c.isAlphanum || "-;/?:@&=+$,_.!~*'()[]%".toList.contains c

/-- The bytes of consecutive percent escapes at the start of a text, and what follows. -/
def uriEscapes : List Char → Except Fault (List UInt8 × List Char)
  | '%' :: high :: low :: rest =>
      match Text.Percent.hexValue? high, Text.Percent.hexValue? low with
      | some h, some l => do
          let others ← uriEscapes rest
          return (UInt8.ofNat (16 * h + l) :: others.1, others.2)
      | _, _ => .error .syntaxError
  | '%' :: _ => .error .syntaxError
  | text => .ok ([], text)

/-- Undoes the percent escapes in a name. -/
def uriText : Nat → List Char → Except Fault (List Char)
  | 0, _ => .ok []
  | _ + 1, [] => .ok []
  | fuel + 1, c :: rest =>
      if c = '%' then do
        let escapes ← uriEscapes (c :: rest)
        match Text.Utf8.decode? escapes.1 with
        | none => .error .syntaxError
        | some decoded => return decoded ++ (← uriText fuel escapes.2)
      else return c :: (← uriText fuel rest)

/-- An encoded name, which is not empty. -/
def uriHere (cursor : Cursor) : Except Fault (String × Cursor) := do
  let run := cursor.run isUriChar
  if run.1.isEmpty then .error .syntaxError
  else
    let text ← uriText (run.1.length + 1) run.1
    return (String.ofList text, run.2)

/-- A handle: an exclamation mark, or a name between two of them. -/
def handleHere (cursor : Cursor) : Except Fault (String × Cursor) :=
  if !cursor.sees (· == '!') then .error .syntaxError
  else if cursor.peek? 1 = some ' ' then .ok ("!", cursor.next)
  else
    let name := cursor.next.run isNameChar
    if name.2.sees (· == '!') then
      .ok (String.ofList ('!' :: name.1 ++ ['!']), name.2.next)
    else .error .syntaxError

def needs (condition : Bool) : Except Fault Unit :=
  if condition then .ok () else .error .syntaxError

def spaces (cursor : Cursor) : Cursor :=
  cursor.skip (· == ' ')

/-- A directive behind its percent sign, with the rest of its line. -/
def directive (cursor : Cursor) : Except Fault (Token × Cursor) := do
  let name := cursor.run isNameChar
  needs (!name.1.isEmpty && name.2.endOr isSpaceOrBreak 0)
  let (token, cursor) ←
    if name.1 = "YAML".toList then do
      let major ← digitsHere (spaces name.2)
      needs (major.2.sees (· == '.'))
      let minor ← digitsHere major.2.next
      needs (minor.2.endOr isSpaceOrBreak 0)
      pure (Token.versionDirective major.1, minor.2)
    else if name.1 = "TAG".toList then do
      let handle ← handleHere (spaces name.2)
      needs (handle.2.sees (· == ' '))
      let tagPrefix ← uriHere (spaces handle.2)
      needs (tagPrefix.2.endOr isSpaceOrBreak 0)
      pure (Token.tagDirective handle.1 tagPrefix.1, tagPrefix.2)
    else pure (Token.otherDirective, name.2.skip fun c => !isBreak c)
  match cursor.restOfLine? with
  | some cursor => return (token, cursor)
  | none => .error .syntaxError

/-! ## Properties of nodes -/

/-- The name behind the mark of an anchor or an alias. -/
def anchorName (cursor : Cursor) : Except Fault (String × Cursor) := do
  let name := cursor.run isNameChar
  needs (!name.1.isEmpty &&
    name.2.endOr (fun c => isGap c || "?:,]\x7d%@\x60".toList.contains c) 0)
  return (String.ofList name.1, name.2)

/-- Whether a word that ends at a space or a line break holds an exclamation mark. -/
def holdsHandle (cursor : Cursor) : Bool :=
  (cursor.run fun c => !isSpaceOrBreak c).1.contains '!'

def tagName (cursor : Cursor) : Except Fault (TagName × Cursor) := do
  let (name, cursor) ←
    if cursor.peek? 1 = some '<' then do
      let uri ← uriHere (cursor.forward 2)
      needs (uri.2.sees (· == '>'))
      pure (TagName.mk none uri.1, uri.2.next)
    else if cursor.endOr isGap 1 then
      pure (TagName.mk none "!", cursor.next)
    else do
      let handle ← if holdsHandle cursor.next then handleHere cursor
        else pure ("!", cursor.next)
      let uri ← uriHere handle.2
      pure (TagName.mk (some handle.1) uri.1, uri.2)
  needs (cursor.endOr isSpaceOrBreak 0)
  return (name, cursor)

/-! ## One token -/

/-- Puts a token behind one or more characters. -/
def indicator (token : Token) (length : Nat) : Lexing Unit := do
  moveTo ((← get).cursor.forward length)
  emit token

def documentMark (token : Token) : Lexing Unit := do
  closeAll
  dropCandidate
  allowKey false
  indicator token 3

def readDirective : Lexing Unit := do
  closeAll
  dropCandidate
  allowKey false
  let (token, cursor) ← directive (← get).cursor.next
  moveTo cursor
  emit token

def openFlow (token : Token) : Lexing Unit := do
  saveCandidate
  modify fun lexer => { lexer with candidates := none :: lexer.candidates, allowsKey := true }
  indicator token 1

def closeFlow (token : Token) : Lexing Unit := do
  dropCandidate
  if !(← get).inFlow then syntaxError
  modify fun lexer => { lexer with candidates := lexer.candidates.drop 1, allowsKey := false }
  indicator token 1

def flowEntry : Lexing Unit := do
  allowKey true
  dropCandidate
  indicator .flowEntry 1

def blockEntry : Lexing Unit := do
  openBlockHere .blockSequenceStart
  allowKey true
  dropCandidate
  indicator .blockEntry 1

def markedKey : Lexing Unit := do
  openBlockHere .blockMappingStart
  allowKey (!(← get).inFlow)
  dropCandidate
  indicator .key 1

/-- A colon: the candidate of this level is a key, or the key has been marked. -/
def value : Lexing Unit := do
  let lexer ← get
  match lexer.candidates with
  | some candidate :: others =>
      set { lexer with
        candidates := none :: others
        tokens := lexer.tokens.take candidate.position ++ #[Token.key] ++
          lexer.tokens.drop candidate.position
        allowsKey := false }
      if !lexer.inFlow then
        openBlock candidate.column .blockMappingStart candidate.position
  | _ =>
      openBlockHere .blockMappingStart
      allowKey (!lexer.inFlow)
      dropCandidate
  indicator .value 1

/-- A node, or the beginning of one, that could be a key. -/
def keyLike {α : Type} (read : Cursor → Except Fault (α × Cursor)) (token : α → Token) :
    Lexing Unit := do
  saveCandidate
  allowKey false
  let found ← read (← get).cursor
  moveTo found.2
  emit (token found.1)

def block (folds : Bool) : Lexing Unit := do
  allowKey true
  dropCandidate
  let lexer ← get
  let found ← blockScalar folds lexer.columns.head? lexer.cursor
  moveTo found.2
  emit (.scalar false (String.ofList found.1))

def plain : Lexing Unit := do
  saveCandidate
  let lexer ← get
  let indent := match lexer.columns with
    | [] => 0
    | column :: _ => column + 1
  let (text, brokenLine, cursor) := plainScalar lexer.inFlow indent lexer.cursor
  allowKey brokenLine
  moveTo cursor
  emit (.scalar true (String.ofList text))

def quoted (double : Bool) : Lexing Unit :=
  keyLike (quotedScalar double) fun text => .scalar false (String.ofList text)

/-- Whether a plain scalar may begin with a character, given what follows it. -/
def beginsPlain (inFlow : Bool) (c : Char) (cursor : Cursor) : Bool :=
  !(isGap c || "-?:,[]\x7b\x7d#&*!|>'\"%@\x60".toList.contains c) ||
    (!cursor.endOr isGap 1 && (c == '-' || (!inFlow && (c == '?' || c == ':'))))

/-- Reads the token that begins with a character. -/
def readToken (c : Char) : Lexing Unit := do
  let lexer ← get
  let cursor := lexer.cursor
  let inFlow := lexer.inFlow
  let atLineStart := cursor.column == 0
  if c = '%' && atLineStart then readDirective
  else if c = '-' && atLineStart && cursor.atSeparator then documentMark .documentStart
  else if c = '.' && atLineStart && cursor.atSeparator then documentMark .documentEnd
  else if c = '[' then openFlow .flowSequenceStart
  else if c = '\x7b' then openFlow .flowMappingStart
  else if c = ']' then closeFlow .flowSequenceEnd
  else if c = '\x7d' then closeFlow .flowMappingEnd
  else if c = ',' then flowEntry
  else if c = '-' && cursor.endOr isGap 1 then blockEntry
  else if c = '?' && (inFlow || cursor.endOr isGap 1) then markedKey
  else if c = ':' && (inFlow || cursor.endOr isGap 1) then value
  else if c = '*' then keyLike (fun cursor => anchorName cursor.next) .alias
  else if c = '&' then keyLike (fun cursor => anchorName cursor.next) .anchor
  else if c = '!' then keyLike tagName .tag
  else if c = '|' && !inFlow then block false
  else if c = '>' && !inFlow then block true
  else if c = '\'' then quoted false
  else if c = '"' then quoted true
  else if beginsPlain inFlow c cursor then plain
  else syntaxError

/-! ## All tokens -/

/-- Reads the next token with the gap in front of it, and tells whether the text goes on
behind it. -/
def readNext : Lexing Bool := do
  skipGap ((← get).cursor.rest.length + 1)
  dropStale
  let column := (← get).cursor.column
  closeWhile fun other => column < other
  match (← get).cursor.rest with
  | [] =>
      closeAll
      dropCandidate
      return false
  | c :: _ =>
      readToken c
      return true

/-- The tokens in front of all nodes that may still turn out to be keys. -/
def settled (lexer : Lexer) : List Token :=
  let pending := (lexer.candidates.filterMap id).filter fun candidate =>
    !isStale lexer.cursor candidate
  let count := (pending.map KeyCandidate.position).foldr min lexer.tokens.size
  (lexer.tokens.take count).toList

/-- Reads tokens up to the end of the text.  Where the text is wrong, the tokens that are
settled in front of that place can still be used. -/
def readTokens : Nat → Lexer → Scan
  | 0, lexer => ⟨lexer.settled, some .syntaxError⟩
  | fuel + 1, lexer =>
      match readNext lexer with
      | .error fault => ⟨lexer.settled, some fault⟩
      | .ok (true, lexer) => readTokens fuel lexer
      | .ok (false, lexer) => ⟨lexer.tokens.toList, none⟩

end Lexer

/-- The tokens of a text.  Each token takes at least one character. -/
def scan (text : List Char) : Scan :=
  Lexer.readTokens (text.length + 1) (Lexer.start text).skipByteOrderMark

end QueryBridge.Yaml
