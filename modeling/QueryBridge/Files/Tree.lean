import QueryBridge.Files.Path

/-!
# File trees

A tree holds files and directories under absolute locations, which are lists of names.
The directories that something lies in exist as well.  A path leads through
directories only; two dots lead back to the directory above.

Whether there is a file at a path cannot be told if the text of the path is too long, or a
name in it that is asked for in a directory.
-/

namespace QueryBridge

inductive FileEntry where
  | directory
  | file (content : List UInt8)
deriving Repr, DecidableEq

structure FileTree where
  entries : List (List String × FileEntry)
deriving Repr, DecidableEq

namespace FileTree

/-- What is at a location.  The root always exists. -/
def entry? (tree : FileTree) (location : List String) : Option FileEntry :=
  match tree.entries.lookup location with
  | some entry => some entry
  | none =>
      if location.isEmpty || tree.entries.any fun entry => location.isPrefixOf entry.1 then
        some .directory
      else none

/-- Where names lead from a location, if only directories are passed. -/
def walk (tree : FileTree) (location : List String) : List String → Option (List String)
  | [] => some location
  | name :: names =>
      match tree.entry? location with
      | some .directory =>
          if name = "" || name = "." then walk tree location names
          else if name = ".." then walk tree location.dropLast names
          else walk tree (location ++ [name]) names
      | some (.file _) | none => none

/-- The locations that names lead through, the last one included, if they pass
directories only. -/
def passed (location : List String) : List String → List (List String)
  | [] => [location]
  | name :: names =>
      location ::
        if name = "" || name = "." then passed location names
        else if name = ".." then passed location.dropLast names
        else passed (location ++ [name]) names

/-- Where the text of a path begins. -/
def start (directory : Path) (text : String) : List String :=
  if (Path.ofText text).isAbsolute then [] else directory.names

/-- Puts a file to where the text of a path leads. -/
def insert (tree : FileTree) (directory : Path) (text : String) (content : List UInt8) :
    FileTree :=
  let locations := passed (start directory text) (Path.rawNames text)
  let directories := locations.dropLast.map fun location => (location, FileEntry.directory)
  ⟨(locations.getLast?.map fun location => (location, FileEntry.file content)).toList ++
    directories ++ tree.entries⟩

/-- What the text of a path leads to; relative paths begin at `directory`. -/
def find? (tree : FileTree) (directory : Path) (text : String) : Option FileEntry :=
  if text = "" then none
  else (tree.walk (start directory text) (Path.rawNames text)).bind tree.entry?

/-- The content of the file that a path leads to. -/
def content? (tree : FileTree) (directory path : Path) : Option (List UInt8) :=
  match tree.find? directory path.toText with
  | some (.file content) => some content
  | some .directory | none => none

/-- The most bytes in a name. -/
def maxNameSize : Nat := 255

/-- The most bytes in the text of a path. -/
def maxTextSize : Nat := 4095

/-- Whether names lead to one that is too long, passing only directories. -/
def meetsLongName (tree : FileTree) (location : List String) : List String → Bool
  | [] => false
  | name :: names =>
      match tree.entry? location with
      | some .directory =>
          if name = "" || name = "." then meetsLongName tree location names
          else if name = ".." then meetsLongName tree location.dropLast names
          else maxNameSize < name.utf8ByteSize || meetsLongName tree (location ++ [name]) names
      | some (.file _) | none => false

def isOverlong (tree : FileTree) (directory path : Path) : Bool :=
  maxTextSize < path.toText.utf8ByteSize ||
    tree.meetsLongName (start directory path.toText) (Path.rawNames path.toText)

end FileTree

/-- What a program finds around it: environment variables, files, the directory it
works in, its own location, and the users of the system. -/
structure Surroundings where
  environment : List (String × String)
  files : FileTree
  workingDirectory : Path
  program : Path
  /-- The home directories of users by their names.  Under the empty name stands that of
  the user who runs the program. -/
  homes : List (String × String)
deriving Repr

namespace Surroundings

def valueOf? (surroundings : Surroundings) (name : String) : Option String :=
  surroundings.environment.lookup name

/-- The value of a variable that is set and not empty. -/
def filled? (surroundings : Surroundings) (name : String) : Option String :=
  (surroundings.valueOf? name).filter (· != "")

def find? (surroundings : Surroundings) (text : String) : Option FileEntry :=
  surroundings.files.find? surroundings.workingDirectory text

def content? (surroundings : Surroundings) (path : Path) : Option (List UInt8) :=
  surroundings.files.content? surroundings.workingDirectory path

def isOverlong (surroundings : Surroundings) (path : Path) : Bool :=
  surroundings.files.isOverlong surroundings.workingDirectory path

end Surroundings

end QueryBridge
