import QueryBridge.Registry
import QueryBridge.Text.Newline
import QueryBridge.Text.Utf8
import QueryBridge.Yaml.Document

/-!
# Registries from structure files

A structure file is a YAML list.  An entry is a name, or a mapping with a name and
optionally a description and tags.  The entries are taken in order, and the first one
that is wrong decides the error.
-/

namespace QueryBridge.Registry

/-- Why a file gives no registry. -/
inductive LoadError where
  | missing (path : String)
  /-- The bytes are no UTF-8. -/
  | encoding
  /-- The text is no YAML. -/
  | malformed (path : String)
  /-- A scalar of the text has no value. -/
  | value (error : Yaml.Error)
  | notList (path : String)
  | entryKind (path kind : String)
  | noName (path : String)
  /-- A value has no text. -/
  | unwritable (fault : Datum.Fault)
  | name (error : NameError)
deriving Repr, DecidableEq

namespace LoadError

def message : LoadError → String
  | .missing path => "Structure file '" ++ path ++ "' does not exist."
  | .encoding => "The structure file is not UTF-8."
  | .malformed path => "Failed to parse '" ++ path ++ "': "
  | .value error => error.message
  | .notList path => "Structure file '" ++ path ++ "' must contain a list of structures."
  | .entryKind path kind =>
      "Invalid entry in '" ++ path ++ "': expected mapping or string, got <class '" ++
        kind ++ "'>"
  | .noName path => "Missing required key 'name' in '" ++ path ++ "'."
  | .unwritable fault => fault.message
  | .name error => error.message

/-- Whether the error is one of loading a registry.  What concerns the encoding of the
text, the value of a scalar or the text of a value is not reported as such. -/
def isReported : LoadError → Bool
  | .encoding | .value _ | .unwritable _ => false
  | _ => true

end LoadError

/-! ## Entries -/

variable [Runtime]

def textOf (value : Datum) : Except LoadError String :=
  value.toText.mapError .unwritable

/-- The tags under a key: none, one, or those of a list. -/
def tagsOf : Option Datum → Except LoadError (List String)
  | none | some .null => .ok []
  | some (.list items) | some (.tuple items) | some (.set items) => items.mapM textOf
  | some value => (textOf value).map fun text => [text]

/-- The description under a key; an empty value is none. -/
def descriptionOf : Option Datum → Except LoadError String
  | none => .ok ""
  | some value => if value.isEmpty then .ok "" else textOf value

/-- The structure of an entry.  Its name, its description and its tags are taken in this
order. -/
def descriptorOf (path : String) : Datum → Except LoadError Descriptor
  | .text name => .ok ⟨name, "", []⟩
  | .mapping entries =>
      match Datum.get? entries "name" with
      | none => .error (.noName path)
      | some name => do
          let name ← textOf name
          let description ← descriptionOf (Datum.get? entries "description")
          let tags ← tagsOf (Datum.get? entries "tags")
          return ⟨name, description, tags⟩
  | value => .error (.entryKind path value.kindName)

/-- Adds the structure of an entry. -/
def addEntry (path : String) (registry : Registry) (entry : Datum) :
    Except LoadError Registry := do
  let descriptor ← descriptorOf path entry
  (registry.add descriptor).mapError .name

/-! ## Files -/

/-- The registry of a list of entries. -/
def ofDatum (path : String) : Datum → Except LoadError Registry
  | .list entries => entries.foldlM (addEntry path) empty
  | _ => .error (.notList path)

/-- The registry in the bytes of a file.  All of them are decoded in front of everything else,
as those of a file are that fits into one block. -/
def ofBytes (path : String) (bytes : List UInt8) : Except LoadError Registry := do
  match Text.Utf8.decode? bytes with
  | none => .error .encoding
  | some text =>
      match Yaml.read (Text.unifyNewlines text) with
      | .ok value => ofDatum path value
      | .error .syntaxError => .error (.malformed path)
      | .error error => .error (.value error)

/-- The registry in a file, if there is one. -/
def ofFile (path : String) (content : Option (List UInt8)) : Except LoadError Registry :=
  match content with
  | none => .error (.missing path)
  | some bytes => ofBytes path bytes

end QueryBridge.Registry
