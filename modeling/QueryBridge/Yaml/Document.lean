import QueryBridge.Text.Base64
import QueryBridge.Text.Case
import QueryBridge.Yaml.Node
import QueryBridge.Yaml.Token.Lexer

/-!
# From a YAML text to its value

A document holds one value.  The values of its nodes are formed level by level: what
is wrong with a node near the root is met before what is wrong with a node below it,
and on one level the order is that of the text.  The children of a collection, and all
that concerns the collection as a whole, belong to the level below it.

A key `<<` merges the entries of its value into its mapping.  They stand in front of
the mapping's own entries, which override them.
-/

namespace QueryBridge.Yaml

/-! ## Errors and their levels -/

/-- A value, or the error that is met first and its distance from here. -/
abbrev Outcome (α : Type) := Except (Nat × Error) α

namespace Outcome

variable {α β : Type}

def here : Except Error α → Outcome α
  | .ok value => .ok value
  | .error error => .error (0, error)

/-- An outcome as seen from one level above. -/
def below : Outcome α → Outcome α
  | .ok value => .ok value
  | .error (distance, error) => .error (distance + 1, error)

/-- Both values.  Of two errors the nearer one is met first, or else the first. -/
def both : Outcome α → Outcome β → Outcome (α × β)
  | .ok first, .ok second => .ok (first, second)
  | .ok _, .error error => .error error
  | .error error, .ok _ => .error error
  | .error first, .error second => .error (if second.1 < first.1 then second else first)

def all (outcomes : List (Outcome α)) : Outcome (List α) :=
  outcomes.foldr (fun outcome rest =>
    match both outcome rest with
    | .ok (value, values) => .ok (value :: values)
    | .error error => .error error) (.ok [])

end Outcome

namespace Node

/-! ## Merging -/

/-- In the place of a key the mark of a default value is a text. -/
def asKey : Node → Node
  | .scalar .default text => .scalar .text text
  | .sequence .default items => .sequence .text items
  | .mapping .default entries => .mapping .text entries
  | node => node

mutual

/-- The entries that a value merges into a mapping: those of a mapping, or of a
sequence of mappings, the last one first. -/
def merged : Node → Except Error (List (Node × Node))
  | .mapping _ entries => do
      let parts ← mergedAndOwn entries
      return parts.1 ++ parts.2
  | .sequence _ items => return (← mergedItems items).reverse.flatten
  | .scalar .. => .error .syntaxError

def mergedItems : List Node → Except Error (List (List (Node × Node)))
  | [] => .ok []
  | .mapping _ entries :: rest => do
      let parts ← mergedAndOwn entries
      return (parts.1 ++ parts.2) :: (← mergedItems rest)
  | _ :: _ => .error .syntaxError

/-- The entries that are merged into a mapping, and its own ones. -/
def mergedAndOwn :
    List (Node × Node) → Except Error (List (Node × Node) × List (Node × Node))
  | [] => .ok ([], [])
  | (key, value) :: rest => do
      if key.tag == .merge then
        let entries ← value.merged
        let parts ← mergedAndOwn rest
        return (entries ++ parts.1, parts.2)
      else
        let parts ← mergedAndOwn rest
        return (parts.1, (key.asKey, value) :: parts.2)

end

/-- All entries of a mapping. -/
def flatten (entries : List (Node × Node)) : Except Error (List (Node × Node)) := do
  let parts ← mergedAndOwn entries
  return parts.1 ++ parts.2

/-! ## Scalars -/

mutual

/-- The text of a scalar; a mapping has the text of its default value. -/
def scalarText? : Node → Option String
  | .scalar _ text => some text
  | .sequence .. => none
  | .mapping _ entries => defaultText? entries

def defaultText? : List (Node × Node) → Option String
  | [] => none
  | (key, value) :: rest =>
      if key.tag == .default then value.scalarText? else defaultText? rest

end

def timestamp (text : String) : Except Error Datum :=
  match Timestamp.read? text.toList with
  | none => .error .timestamp
  | some timestamp =>
      match timestamp.toDatum with
      | .ok value => .ok value
      | .error error => .error (.calendar error)

/-- The value of a scalar; the other kinds of values have no scalars. -/
def scalarDatum (tag : Tag) (text : String) : Except Error Datum :=
  match tag with
  | .null => .ok .null
  | .bool =>
      match Tag.truthWords.lookup (Text.lower text) with
      | some value => .ok (.bool value)
      | none => .error .truthValue
  | .int => (integer text).map .int
  | .float => (number text).map .float
  | .binary =>
      match Text.Base64.decode? text.toList with
      | some value =>
          if text.toList.all fun c => c.toNat < 0x80 then .ok (.bytes value)
          else .error .syntaxError
      | none => .error .syntaxError
  | .timestamp => timestamp text
  | .text => .ok (.text text)
  | _ => .error .syntaxError

/-! ## Values -/

/-- An entry with the values that a step gives.  A collection is no key. -/
def entryOutcome (step : Node → Outcome Datum) (entry : Node × Node) :
    Outcome (Datum × Datum) :=
  Outcome.both
    (if entry.1.tag.isCollection then .error (0, .syntaxError) else step entry.1)
    (step entry.2)

/-- The entries of a mapping, each key in its first place with its last value. -/
def entriesOutcome (step : Node → Outcome Datum) (entries : List (Node × Node)) :
    Outcome (List (Datum × Datum)) := do
  let entries ← Outcome.here (flatten entries)
  let pairs ← Outcome.all (entries.map (entryOutcome step))
  return pairs.foldl (fun entries pair => Datum.insertEntry pair.1 pair.2 entries) []

/-- A pair is a mapping with one entry. -/
def pairOutcome (step : Node → Outcome Datum) : Node → Outcome Datum
  | .mapping _ [(key, value)] =>
      (Outcome.both (step key) (step value)).map fun pair => .tuple [pair.1, pair.2]
  | _ => .error (0, .syntaxError)

/-- A set of members that differ from each other. -/
def setOutcome : List Datum → Outcome Datum
  | [] => .ok (.set [])
  | [member] => .ok (.set [member])
  | _ => .error (0, .uncovered .unordered)

/-- The value of a node that is at most as high as the fuel. -/
def outcome : Nat → Node → Outcome Datum
  | 0, _ => .error (0, .syntaxError)
  | fuel + 1, node =>
      match node.tag, node with
      | .sequence, .sequence _ items =>
          Outcome.below ((Outcome.all (items.map (outcome fuel))).map Datum.list)
      | .mapping, .mapping _ entries =>
          Outcome.below ((entriesOutcome (outcome fuel) entries).map Datum.mapping)
      | .set, .mapping _ entries =>
          Outcome.below ((entriesOutcome (outcome fuel) entries).bind fun entries =>
            setOutcome (entries.map Prod.fst))
      | .pairs, .sequence _ items =>
          Outcome.below ((Outcome.all (items.map (pairOutcome (outcome fuel)))).map Datum.list)
      | tag, node =>
          if tag.isCollection then .error (1, .syntaxError)
          else
            match node.scalarText? with
            | some text => Outcome.here (scalarDatum tag text)
            | none => .error (0, .syntaxError)

/-- The value of a node, or the error that is met first. -/
def toDatum (node : Node) : Except Error Datum :=
  match node.outcome node.height with
  | .ok value => .ok value
  | .error (_, error) => .error error

end Node

/-! ## Texts -/

/-- Whether a character may stand in a document. -/
def isAdmitted (c : Char) : Bool :=
  c == '\t' || c == '\n' || c == '\r' || (' ' ≤ c && c ≤ '~') || c == '\x85' ||
    ('\xA0' ≤ c && c ≤ '\uFFFD') || 0x10000 ≤ c.toNat

/-- The value of the document in a text; a text without one holds null. -/
def read [Runtime] (text : List Char) : Except Error Datum := do
  if !text.all isAdmitted then throw .syntaxError
  match ← Node.ofScan (scan text) with
  | none => return .null
  | some root => root.toDatum

end QueryBridge.Yaml
