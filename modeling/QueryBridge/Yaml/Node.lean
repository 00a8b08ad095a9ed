import QueryBridge.Runtime
import QueryBridge.Yaml.Error
import QueryBridge.Yaml.Tag
import QueryBridge.Yaml.Token

/-!
# The nodes of a YAML document

A node is a scalar, a sequence or a mapping, with the tag that says what it stands for.
Nodes are read from tokens by descent.  Every step of the descent takes a token or goes
on to a step that does, so a fuel in proportion to the number of tokens suffices.

An alias stands for the node that its anchor names.  Inside that node it would stand for
a tree without end, which is not covered, and neither are nodes that lie too deep in each
other.
-/

namespace QueryBridge.Yaml

inductive Node where
  | scalar (tag : Tag) (text : String)
  | sequence (tag : Tag) (items : List Node)
  | mapping (tag : Tag) (entries : List (Node × Node))
deriving Repr

namespace Node

def tag : Node → Tag
  | .scalar tag _ | .sequence tag _ | .mapping tag _ => tag

/-- What stands where a node is left out. -/
def empty : Node :=
  .scalar (.ofPlain "") ""

mutual

/-- The levels of nodes. -/
def height : Node → Nat
  | .scalar .. => 1
  | .sequence _ items => heightOfItems items + 1
  | .mapping _ entries => heightOfEntries entries + 1

def heightOfItems : List Node → Nat
  | [] => 0
  | item :: rest => max item.height (heightOfItems rest)

def heightOfEntries : List (Node × Node) → Nat
  | [] => 0
  | (key, value) :: rest => max (max key.height value.height) (heightOfEntries rest)

end

end Node

/-! ## The state of reading -/

structure Reading where
  tokens : List Token
  /-- Whether the text goes on behind the tokens with something that is no token. -/
  isCut : Bool
  /-- The levels of nodes that there can be below this place. -/
  levels : Nat
  /-- The nodes that have names; one that is still being read is not known. -/
  anchors : List (String × Option Node)
  /-- What the handles of tags stand for. -/
  handles : List (String × String)

/-- Why no node can be read. -/
inductive Halt where
  /-- The tokens are in no order of the language. -/
  | syntaxError
  /-- More tokens are needed than there are in front of a fault of the text. -/
  | cut
  | uncovered (reason : Uncovered)
deriving Repr, DecidableEq

abbrev Parsing := StateT Reading (Except Halt)

namespace Reading

def defaultHandles : List (String × String) :=
  [("!", "!"), ("!!", Tag.commonPrefix)]

/-- Goes on with the given tokens. -/
def proceed (tokens : List Token) : Parsing Unit :=
  modify fun reading => { reading with tokens }

/-- The tokens ahead.  A fault of the text is met where the first of them is asked for. -/
def upcoming : Parsing (List Token) := do
  let reading ← get
  if reading.isCut && reading.tokens.isEmpty then throw .cut
  return reading.tokens

def seesAny (stops : List Token) : Parsing Bool :=
  return ((← upcoming).head?.map stops.contains).getD false

/-- A node, or nothing if a token follows that ends its place. -/
def orEmpty (stops : List Token) (node : Parsing Node) : Parsing Node := do
  if ← seesAny stops then return Node.empty else node

/-- The value of an entry: a node behind the mark of a value, or nothing. -/
def valueOr (stops : List Token) (node : Parsing Node) : Parsing Node := do
  match ← upcoming with
  | .value :: rest =>
      proceed rest
      orEmpty stops node
  | _ => return Node.empty

/-! ## Properties of nodes -/

/-- What is written in front of the content of a node. -/
structure Properties where
  anchor : Option String
  /-- The full name of the tag. -/
  tag : Option String

namespace Properties

def isEmpty (properties : Properties) : Bool :=
  properties.anchor.isNone && properties.tag.isNone

/-- The tag that is declared; the lone mark of a tag declares none. -/
def declared (properties : Properties) : Option Tag :=
  match properties.tag with
  | none | some "!" => none
  | some name => some (Tag.ofName name)

/-- The tag of a scalar.  A scalar in quotes is a text, unless the lone mark of a tag
asks to take it as a plain one. -/
def scalarTag (properties : Properties) (isPlain : Bool) (text : String) : Tag :=
  properties.declared.getD
    (if isPlain || properties.tag.isSome then Tag.ofPlain text else .text)

end Properties

def takeAnchor : Parsing (Option String) := do
  match ← upcoming with
  | .anchor name :: rest =>
      proceed rest
      return some name
  | _ => return none

def takeTag : Parsing (Option TagName) := do
  match ← upcoming with
  | .tag name :: rest =>
      proceed rest
      return some name
  | _ => return none

/-- The full name of a tag. -/
def resolve : Option TagName → Parsing (Option String)
  | none => return none
  | some ⟨none, suffix⟩ => return some suffix
  | some ⟨some handle, suffix⟩ => do
      match (← get).handles.lookup handle with
      | some start => return some (start ++ suffix)
      | none => throw .syntaxError

/-- An anchor and a tag, in either order. -/
def takeProperties : Parsing Properties := do
  match ← takeAnchor with
  | some anchor =>
      let name ← takeTag
      return ⟨some anchor, ← resolve name⟩
  | none =>
      match ← takeTag with
      | some name =>
          let anchor ← takeAnchor
          return ⟨anchor, ← resolve name⟩
      | none => return ⟨none, none⟩

/-- From here on the anchor names the node, which is not known while it is being read. -/
def name (anchor : Option String) (node : Option Node) : Parsing Unit :=
  match anchor with
  | none => return ()
  | some anchor => modify fun reading =>
      { reading with anchors := (anchor, node) :: reading.anchors }

/-- An anchor can be given only once. -/
def checkAnchor (anchor : Option String) : Parsing Unit := do
  let anchors := (← get).anchors
  if (anchor.bind fun name => anchors.lookup name).isSome then throw .syntaxError

/-- What a step reads on the level below. -/
def below {α : Type} (contents : Parsing α) : Parsing α := do
  let levels := (← get).levels
  if levels = 0 then throw (.uncovered .deep)
  modify fun reading => { reading with levels := levels - 1 }
  let found ← contents
  modify fun reading => { reading with levels := levels }
  return found

/-- A collection of what a step reads. -/
def collection {α : Type} (anchor : Option String) (make : List α → Node)
    (contents : Parsing (List α)) : Parsing Node := do
  name anchor none
  let node := make (← below contents)
  name anchor (some node)
  return node

/-- The node that an anchor names, which takes its place below this one. -/
def namedNode (anchor : String) : Parsing Node := do
  let reading ← get
  match reading.anchors.lookup anchor with
  | none => throw .syntaxError
  | some none => throw (.uncovered .recursive)
  | some (some node) =>
      if reading.levels < node.height then throw (.uncovered .deep)
      return node

/-! ## Nodes -/

/-- Where a node stands.  Only a key or a value in a block can be a sequence whose
entries are at the column of the mapping. -/
inductive Place where
  | flow
  | block
  | entry
deriving Repr, DecidableEq

mutual

def node : Nat → Place → Parsing Node
  | 0, _ => throw .syntaxError
  | fuel + 1, place => do
      match ← upcoming with
      | .alias anchor :: rest =>
          proceed rest
          namedNode anchor
      | _ =>
      let properties ← takeProperties
      let anchor := properties.anchor
      let tokens ← upcoming
      checkAnchor anchor
      let sequence := Node.sequence (properties.declared.getD .sequence)
      let mapping := Node.mapping (properties.declared.getD .mapping)
      match tokens, place with
      | .scalar isPlain text :: rest, _ =>
          proceed rest
          let node := Node.scalar (properties.scalarTag isPlain text) text
          name anchor (some node)
          return node
      | .flowSequenceStart :: rest, _ =>
          proceed rest
          collection anchor sequence (flowItems fuel true)
      | .flowMappingStart :: rest, _ =>
          proceed rest
          collection anchor mapping (flowEntries fuel true)
      | .blockSequenceStart :: rest, .block | .blockSequenceStart :: rest, .entry =>
          proceed rest
          collection anchor sequence (blockItems fuel)
      | .blockMappingStart :: rest, .block | .blockMappingStart :: rest, .entry =>
          proceed rest
          collection anchor mapping (blockEntries fuel)
      | .blockEntry :: _, .entry =>
          collection anchor sequence (entryItems fuel)
      | _, _ =>
          if properties.isEmpty then throw .syntaxError
          let node := Node.scalar (properties.scalarTag true "") ""
          name anchor (some node)
          return node

/-- The items of a sequence in brackets. -/
def flowItems : Nat → Bool → Parsing (List Node)
  | 0, _ => throw .syntaxError
  | fuel + 1, isFirst => do
      match ← upcoming, isFirst with
      | .flowSequenceEnd :: _, _ | _, true => pure ()
      | .flowEntry :: rest, false => proceed rest
      | _, false => throw .syntaxError
      match ← upcoming with
      | .flowSequenceEnd :: rest =>
          proceed rest
          return []
      | .key :: rest =>
          proceed rest
          let entry ← below do
            let key ← orEmpty [.value, .flowEntry, .flowSequenceEnd] (node fuel .flow)
            let value ← valueOr [.flowEntry, .flowSequenceEnd] (node fuel .flow)
            return (key, value)
          return .mapping .mapping [entry] :: (← flowItems fuel false)
      | _ =>
          let item ← node fuel .flow
          return item :: (← flowItems fuel false)

/-- The entries of a mapping in braces.  A node without the mark of a key is a key
without a value. -/
def flowEntries : Nat → Bool → Parsing (List (Node × Node))
  | 0, _ => throw .syntaxError
  | fuel + 1, isFirst => do
      match ← upcoming, isFirst with
      | .flowMappingEnd :: _, _ | _, true => pure ()
      | .flowEntry :: rest, false => proceed rest
      | _, false => throw .syntaxError
      match ← upcoming with
      | .flowMappingEnd :: rest =>
          proceed rest
          return []
      | .key :: rest =>
          proceed rest
          let key ← orEmpty [.value, .flowEntry, .flowMappingEnd] (node fuel .flow)
          let value ← valueOr [.flowEntry, .flowMappingEnd] (node fuel .flow)
          return (key, value) :: (← flowEntries fuel false)
      | _ =>
          let key ← node fuel .flow
          return (key, .empty) :: (← flowEntries fuel false)

/-- The items of a sequence with a column of its own. -/
def blockItems : Nat → Parsing (List Node)
  | 0 => throw .syntaxError
  | fuel + 1 => do
      match ← upcoming with
      | .blockEntry :: rest =>
          proceed rest
          let item ← orEmpty [.blockEntry, .blockEnd] (node fuel .block)
          return item :: (← blockItems fuel)
      | .blockEnd :: rest =>
          proceed rest
          return []
      | _ => throw .syntaxError

/-- The items of a sequence at the column of the mapping that it belongs to. -/
def entryItems : Nat → Parsing (List Node)
  | 0 => throw .syntaxError
  | fuel + 1 => do
      match ← upcoming with
      | .blockEntry :: rest =>
          proceed rest
          let item ← orEmpty [.blockEntry, .key, .value, .blockEnd] (node fuel .block)
          return item :: (← entryItems fuel)
      | _ => return []

/-- The entries of a mapping with a column of its own. -/
def blockEntries : Nat → Parsing (List (Node × Node))
  | 0 => throw .syntaxError
  | fuel + 1 => do
      match ← upcoming with
      | .key :: rest =>
          proceed rest
          let key ← orEmpty [.key, .value, .blockEnd] (node fuel .entry)
          let value ← valueOr [.key, .value, .blockEnd] (node fuel .entry)
          return (key, value) :: (← blockEntries fuel)
      | .blockEnd :: rest =>
          proceed rest
          return []
      | _ => throw .syntaxError

end

/-! ## Documents -/

/-- The directives at the beginning of a document.  Only the first version of the
language is known, and nothing can be declared twice. -/
def directives (hasVersion : Bool) (handles : List (String × String)) :
    List Token → Except Halt (List (String × String) × List Token)
  | .versionDirective major :: rest =>
      if hasVersion || major != 1 then .error .syntaxError
      else directives true handles rest
  | .tagDirective handle start :: rest =>
      if (handles.lookup handle).isSome then .error .syntaxError
      else directives hasVersion (handles ++ [(handle, start)]) rest
  | .otherDirective :: rest => directives hasVersion handles rest
  | tokens => .ok (handles, tokens)

def isDirective : Token → Bool
  | .versionDirective _ | .tagDirective .. | .otherDirective => true
  | _ => false

/-- Whether nothing stands between the mark of a document and the tokens. -/
def endsDocument : List Token → Bool
  | [] => true
  | token :: _ => isDirective token || token == .documentStart || token == .documentEnd

/-- The root of a document that begins with a mark or without one. -/
def document (fuel : Nat) : Parsing Node := do
  match ← upcoming with
  | token :: rest =>
      if isDirective token || token == .documentStart then
        let (handles, tokens) ← directives false [] (token :: rest)
        modify fun reading => { reading with tokens, handles := handles ++ defaultHandles }
        match ← upcoming with
        | .documentStart :: rest =>
            proceed rest
            if endsDocument (← upcoming) then return Node.empty
            else node fuel .block
        | _ => throw .syntaxError
      else
        node fuel .block
  | [] => throw .syntaxError

/-- Nothing but marks of its end follows a document.  A second document is wrong whatever
it holds, once its directives are read. -/
def endOfDocument : Parsing Unit := do
  let tokens := (← get).tokens.dropWhile (· == .documentEnd)
  proceed tokens
  if (← upcoming).isEmpty then return ()
  else
    let (_, tokens) ← directives false [] tokens
    proceed tokens
    let _ ← upcoming
    throw .syntaxError

/-- The root of the only document, if there is one. -/
def stream (fuel : Nat) : Parsing (Option Node) := do
  if (← upcoming).isEmpty then return none
  else
    let root ← document fuel
    endOfDocument
    return some root

end Reading

/-- The root of the only document that the tokens form, if there is one.  What is wrong
with the order of the tokens is met before what is wrong with the text behind them. -/
def Node.ofScan [Runtime] (scan : Scan) : Except Error (Option Node) :=
  let read := (Reading.stream (4 * (scan.tokens.length + 1))).run
    ⟨scan.tokens, scan.fault.isSome, Runtime.yamlLevels, [], Reading.defaultHandles⟩
  match read with
  | .ok (root, _) => .ok root
  | .error .syntaxError => .error .syntaxError
  | .error (.uncovered reason) => .error (.uncovered reason)
  | .error .cut => .error ((scan.fault.map Fault.error).getD .syntaxError)

end QueryBridge.Yaml
