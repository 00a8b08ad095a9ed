import QueryBridge.Text.Blank

/-!
# The registry of structures

A structure is the name of a collection that a request may address.  A registry holds
the admitted structures in order; their names are not blank, have no blanks at their
ends, and are distinct.
-/

namespace QueryBridge

/-- An admitted structure. -/
structure Descriptor where
  name : String
  description : String
  tags : List String
deriving Repr, DecidableEq

structure Registry where
  entries : List Descriptor
deriving Repr, DecidableEq

namespace Registry

/-- What is wrong with a name. -/
inductive NameError where
  | blank
  | untrimmed (name : String)
  | repeated (name : String)
deriving Repr, DecidableEq

def NameError.message : NameError → String
  | .blank => "Structure names must be non-empty."
  | .untrimmed name =>
      "Structure '" ++ name ++ "' must not have leading or trailing whitespace."
  | .repeated name => "Structure '" ++ name ++ "' is declared more than once."

def empty : Registry := ⟨[]⟩

def names (registry : Registry) : List String :=
  registry.entries.map Descriptor.name

def contains (registry : Registry) (name : String) : Bool :=
  registry.names.contains name

def get? (registry : Registry) (name : String) : Option Descriptor :=
  registry.entries.find? fun descriptor => descriptor.name == name

def size (registry : Registry) : Nat :=
  registry.entries.length

/-- Adds a structure at the end. -/
def add (registry : Registry) (descriptor : Descriptor) : Except NameError Registry :=
  let trimmed := Text.trim descriptor.name
  if trimmed = "" then .error .blank
  else if descriptor.name ≠ trimmed then .error (.untrimmed descriptor.name)
  else if registry.contains descriptor.name then .error (.repeated descriptor.name)
  else .ok ⟨registry.entries ++ [descriptor]⟩

/-- The registry of the structures in order, or the error of the first wrong one. -/
def ofDescriptors (descriptors : List Descriptor) : Except NameError Registry :=
  descriptors.foldlM add empty

def ofNames (names : List String) : Except NameError Registry :=
  ofDescriptors (names.map fun name => ⟨name, "", []⟩)

/-- The structures that are admitted if none are given. -/
def default : Registry :=
  ⟨[⟨"FirstStructure", "First example resource collection exposed by the REST service.",
      ["example"]⟩,
    ⟨"SecondStructure", "Second example resource collection exposed by the REST service.",
      ["example"]⟩]⟩

end Registry

end QueryBridge
