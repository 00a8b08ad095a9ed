import QueryBridge.Text.Split

/-!
# Paths of files

A path is a list of names below an anchor: the root, or for a relative path nothing.
Empty names and single dots do not count; two dots are kept, because what they mean
depends on the files.
-/

namespace QueryBridge

structure Path where
  /-- One slash or two for the root, nothing for a relative path. -/
  anchor : String
  names : List String
deriving Repr, DecidableEq

namespace Path

def root : Path := ⟨"/", []⟩

/-- Two slashes at the beginning are a root of their own, three are one slash. -/
def anchorOf : List Char → String
  | '/' :: '/' :: '/' :: _ => "/"
  | '/' :: '/' :: _ => "//"
  | '/' :: _ => "/"
  | _ => ""

/-- The names between the slashes of a text, as they are written. -/
def rawNames (text : String) : List String :=
  (Text.splitOn '/' text.toList).map String.ofList

def ofText (text : String) : Path :=
  ⟨anchorOf text.toList, (rawNames text).filter fun name => name != "" && name != "."⟩

def toText (path : Path) : String :=
  let text := path.anchor ++ String.intercalate "/" path.names
  if text = "" then "." else text

def isAbsolute (path : Path) : Bool :=
  path.anchor != ""

/-- The path of a name below a path. -/
def child (path : Path) (name : String) : Path :=
  { path with names := path.names ++ [name] }

/-- The directories that a path lies in, the nearest first. -/
def parents (path : Path) : List Path :=
  (List.range path.names.length).reverse.map fun count =>
    { path with names := path.names.take count }

end Path

end QueryBridge
