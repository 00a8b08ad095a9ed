import QueryBridge.Datum
import QueryBridge.Fields

/-!
# Tables of a TOML document

A document is a sequence of sections.  The header of a section opens a table, or adds
an element to a list of tables, and the entries behind it fill the table.  An entry
may reach into tables below its own by a path of several names.

A table can be opened once only.  A table that stands on the way to another one is not
yet opened; one that an entry reaches into is open to the entries of the same section.
A value is closed: no path leads into it.
-/

namespace QueryBridge.Toml

/-- How a table came to be. -/
inductive Origin where
  /-- It stands on the way to a table that a header opened. -/
  | passed
  /-- An entry of the present section reached into it. -/
  | reached
  /-- It is opened, and no header opens it again. -/
  | opened
deriving Repr, DecidableEq

inductive Item where
  | value (value : Datum)
  | table (origin : Origin) (entries : List (String × Item))
  /-- A list of tables; paths lead into the last one. -/
  | elements (earlier : List (List (String × Item))) (last : List (String × Item))

/-- A path: the names of tables, and a name in the last of them. -/
structure Path where
  parents : List String
  name : String
deriving Repr, DecidableEq

/-- A section of a document. -/
inductive Header where
  | root
  | table (path : Path)
  | element (path : Path)
deriving Repr, DecidableEq

/-- An assignment of a value. -/
structure Entry where
  path : Path
  value : Datum

structure Section where
  header : Header
  entries : List Entry

/-- The contents of a table. -/
abbrev Contents := Fields Item

namespace Contents

/-! ## Entries -/

/-- Gives a value to a new name, in the table at the end of the parents. -/
def assign (value : Datum) (name : String) : List String → Contents → Option Contents
  | [], contents =>
      if Fields.contains contents name then none
      else some (contents ++ [(name, .value value)])
  | parent :: parents, contents =>
      match Fields.get? contents parent with
      | none => (assign value name parents []).map fun below =>
          Fields.insert parent (.table .reached below) contents
      | some (.table .opened _) | some (.value _) | some (.elements ..) => none
      | some (.table _ inner) => (assign value name parents inner).map fun below =>
          Fields.insert parent (.table .reached below) contents

def assignAll (entries : List Entry) (contents : Contents) : Option Contents :=
  entries.foldlM (fun contents entry =>
    assign entry.value entry.path.name entry.path.parents contents) contents

mutual

/-- At the end of a section the tables that it reached into are opened. -/
def openReached : List (String × Item) → List (String × Item)
  | [] => []
  | (name, item) :: rest => (name, openReachedItem item) :: openReached rest

def openReachedItem : Item → Item
  | .table .reached entries => .table .opened (openReached entries)
  | item => item

end

/-- Fills a table with the entries of a section. -/
def fill (entries : List Entry) (contents : Contents) : Option Contents :=
  (assignAll entries contents).map openReached

/-! ## Headers -/

/-- Changes the table at the end of a path; the tables on the way are made. -/
def changeAt (change : Contents → Option Contents) :
    List String → Contents → Option Contents
  | [], contents => change contents
  | name :: names, contents =>
      match Fields.get? contents name with
      | none => (changeAt change names []).map fun below =>
          Fields.insert name (.table .passed below) contents
      | some (.table origin inner) => (changeAt change names inner).map fun below =>
          Fields.insert name (.table origin below) contents
      | some (.elements earlier last) => (changeAt change names last).map fun below =>
          Fields.insert name (.elements earlier below) contents
      | some (.value _) => none

/-- Opens a table and fills it. -/
def openTable (entries : List Entry) (name : String) (contents : Contents) :
    Option Contents := do
  match Fields.get? contents name with
  | none => return Fields.insert name (.table .opened (← fill entries [])) contents
  | some (.table .passed inner) =>
      return Fields.insert name (.table .opened (← fill entries inner)) contents
  | _ => none

/-- Adds an element to a list of tables and fills it. -/
def addElement (entries : List Entry) (name : String) (contents : Contents) :
    Option Contents := do
  match Fields.get? contents name with
  | none => return Fields.insert name (.elements [] (← fill entries [])) contents
  | some (.elements earlier last) =>
      return Fields.insert name (.elements (earlier ++ [last]) (← fill entries [])) contents
  | _ => none

def addSection (contents : Contents) (part : Section) : Option Contents :=
  match part.header with
  | .root => fill part.entries contents
  | .table path => changeAt (openTable part.entries path.name) path.parents contents
  | .element path => changeAt (addElement part.entries path.name) path.parents contents

/-- The contents that the sections form, in order. -/
def ofSections (sections : List Section) : Option Contents :=
  sections.foldlM addSection []

/-! ## Values -/

mutual

def itemDatum : Item → Datum
  | .value value => value
  | .table _ entries => .mapping (datumEntries entries)
  | .elements earlier last => .list (elementData earlier ++ [.mapping (datumEntries last)])

def datumEntries : List (String × Item) → List (Datum × Datum)
  | [] => []
  | (name, item) :: rest => (.text name, itemDatum item) :: datumEntries rest

def elementData : List (List (String × Item)) → List Datum
  | [] => []
  | entries :: rest => .mapping (datumEntries entries) :: elementData rest

end

def toDatum (contents : Contents) : Datum :=
  .mapping (datumEntries contents)

end Contents

end QueryBridge.Toml
