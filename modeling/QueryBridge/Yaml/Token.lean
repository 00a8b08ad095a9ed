import QueryBridge.Yaml.Error

/-!
# YAML tokens

The tokens of a document are its indicators and scalars, with marks where a block
collection begins and ends by its indentation.
-/

namespace QueryBridge.Yaml

/-- A tag as it is written: a suffix behind a handle, or a whole name. -/
structure TagName where
  handle : Option String
  suffix : String
deriving Repr, DecidableEq

inductive Token where
  | versionDirective (major : Nat)
  | tagDirective (handle tagPrefix : String)
  | otherDirective
  | documentStart
  | documentEnd
  | blockSequenceStart
  | blockMappingStart
  | blockEnd
  | flowSequenceStart
  | flowSequenceEnd
  | flowMappingStart
  | flowMappingEnd
  | flowEntry
  | blockEntry
  | key
  | value
  | alias (name : String)
  | anchor (name : String)
  | tag (name : TagName)
  | scalar (isPlain : Bool) (text : String)
deriving Repr, DecidableEq

/-- The tokens that a text begins with, and what is wrong with the text behind them. -/
structure Scan where
  tokens : List Token
  fault : Option Fault
deriving Repr, DecidableEq

end QueryBridge.Yaml
