import QueryBridge.Yaml.Number
import QueryBridge.Yaml.Timestamp

/-!
# Tags

The tag of a node says what kind of value it stands for.  A plain scalar without a tag
has the first tag whose form it has, and is a text if it has none of the forms.
-/

namespace QueryBridge.Yaml

inductive Tag where
  | null
  | bool
  | int
  | float
  | binary
  | timestamp
  | text
  | sequence
  | mapping
  | set
  /-- Pairs in order; whether they may repeat makes no difference. -/
  | pairs
  /-- The key whose value is merged into its mapping. -/
  | merge
  /-- The key of a default value. -/
  | default
  | unknown
deriving Repr, DecidableEq

namespace Tag

/-- What the names of all known tags begin with. -/
def commonPrefix : String := "tag:yaml.org,2002:"

def known : List (String × Tag) :=
  [("null", .null), ("bool", .bool), ("int", .int), ("float", .float), ("binary", .binary),
    ("timestamp", .timestamp), ("str", .text), ("seq", .sequence), ("map", .mapping),
    ("set", .set), ("omap", .pairs), ("pairs", .pairs), ("merge", .merge), ("value", .default)]

def ofName (name : String) : Tag :=
  ((known.find? fun entry => commonPrefix ++ entry.1 == name).map Prod.snd).getD .unknown

/-- Whether values of the kind are collections, which are no keys. -/
def isCollection : Tag → Bool
  | .sequence | .mapping | .set | .pairs => true
  | _ => false

/-! ## Plain scalars -/

def truthWords : List (String × Bool) :=
  [("yes", true), ("no", false), ("true", true), ("false", false), ("on", true),
    ("off", false)]

/-- The spellings of a word in lower case, with a capital, and in upper case. -/
def spellings (word : String) : List String :=
  [word, word.capitalize, word.toUpper]

def truthSpellings : List String :=
  truthWords.flatMap fun entry => spellings entry.1

def nullSpellings : List String :=
  ["", "~", "null", "Null", "NULL"]

def ofPlain (text : String) : Tag :=
  let chars := text.toList
  if truthSpellings.contains text then .bool
  else if isNumber chars then .float
  else if isInteger chars then .int
  else if text = "<<" then .merge
  else if nullSpellings.contains text then .null
  else if Timestamp.isPlain chars then .timestamp
  else if text = "=" then .default
  else .text

end Tag

end QueryBridge.Yaml
