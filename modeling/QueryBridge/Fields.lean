/-!
# Ordered fields

A mapping that remembers the order in which its names first appeared is a list of
name and value pairs.  Giving a value to a name that is there already keeps the
name's place.
-/

namespace QueryBridge

/-- Values under names, in the order of the names' first appearance. -/
abbrev FieldsOf (κ α : Type) := List (κ × α)

/-- Values under names that are texts. -/
abbrev Fields (α : Type) := FieldsOf String α

namespace Fields

variable {κ α β : Type} [DecidableEq κ]

/-- Gives `value` to `name`: in its place if it is there, else at the end. -/
def insert (name : κ) (value : α) : FieldsOf κ α → FieldsOf κ α
  | [] => [(name, value)]
  | (other, old) :: rest =>
      if other = name then (name, value) :: rest
      else (other, old) :: insert name value rest

/-- The fields that result from giving the values in order. -/
def ofList (pairs : List (κ × α)) : FieldsOf κ α :=
  pairs.foldl (fun fields pair => insert pair.1 pair.2 fields) []

/-- The fields with the values of `others` given to them in order. -/
def override (fields others : FieldsOf κ α) : FieldsOf κ α :=
  others.foldl (fun fields pair => insert pair.1 pair.2 fields) fields

def get? (fields : FieldsOf κ α) (name : κ) : Option α :=
  fields.lookup name

def names (fields : FieldsOf κ α) : List κ :=
  fields.map Prod.fst

def contains (fields : FieldsOf κ α) (name : κ) : Bool :=
  (names fields).contains name

def mapValues (f : α → β) (fields : FieldsOf κ α) : FieldsOf κ β :=
  fields.map fun field => (field.1, f field.2)

end Fields

end QueryBridge
