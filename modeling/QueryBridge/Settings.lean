import QueryBridge.Files.Tree
import QueryBridge.Property
import QueryBridge.Text.Utf8
import QueryBridge.Toml.Document

/-!
# Settings

Settings come from the table `bridge` of one TOML file and from environment variables,
which override the endpoint and the credentials.  The file is the given one, or the
first that exists of three: the one that a variable names, one in the working
directory, and one in the root of the project that the program belongs to.
-/

namespace QueryBridge

open QueryBridge.Decimal (Binary64)

structure Settings where
  endpoint : String
  username : Option String
  password : Option String
  structures : List String
  timeout : Binary64
  /-- The file that the settings come from. -/
  source : Option Path
deriving Repr, DecidableEq

namespace Settings

def defaultEndpoint : String := "http://restendpoint.com/sitelocation"

/-- Fifteen seconds. -/
def defaultTimeout : Binary64 := .ofRatio false 15 1

def default : Settings := ⟨defaultEndpoint, none, none, [], defaultTimeout, none⟩

/-- The credentials as values of an adapter's properties. -/
def properties (settings : Settings) : List (String × String) :=
  (settings.username.map fun username => (PropertyMap.usernameKey, username)).toList ++
    (settings.password.map fun password => (PropertyMap.passwordKey, password)).toList

/-- Why there are no settings. -/
inductive Error where
  /-- The given file does not exist. -/
  | missing (path : String)
  /-- No file was found. -/
  | notFound
  /-- A path begins with a home directory that is not known. -/
  | home
  /-- It cannot be told whether there is a file at a path. -/
  | unreachable
  /-- The bytes of the file are no UTF-8. -/
  | encoding
  | document (error : Toml.Error)
  /-- A structure has no text. -/
  | structures (fault : Datum.Fault)
  /-- The timeout is beyond the range of numbers. -/
  | timeout
deriving Repr, DecidableEq

def Error.message : Error → String
  | .missing path => "Configuration file '" ++ path ++ "' does not exist."
  | .notFound =>
      "No bridge configuration found. Set REST_BRIDGE_CONFIG_PATH or create " ++
        ".secrets/bridge.toml."
  | .home => "Could not determine home directory."
  | .unreachable => "File name too long"
  | .encoding => "The configuration file is not UTF-8."
  | .document error => error.message
  | .structures fault => fault.message
  | .timeout => "int too large to convert to float"

/-! ## Where the file is -/

def homeVariable : String := "HOME"

def pathVariable : String := "REST_BRIDGE_CONFIG_PATH"

def endpointVariable : String := "REST_BRIDGE_ENDPOINT"

def usernameVariable : String := "REST_BRIDGE_USERNAME"

def passwordVariable : String := "REST_BRIDGE_PASSWORD"

/-- The place of the file in a directory. -/
def fileIn (directory : Path) : Path :=
  (directory.child ".secrets").child "bridge.toml"

/-- The text of a user's home directory.  For the user who runs the program, whose name is
empty here, a variable goes first. -/
def homeText? (surroundings : Surroundings) (user : String) : Option String :=
  let known := surroundings.homes.lookup user
  if user = "" then (surroundings.valueOf? homeVariable).or known else known

/-- A user's home directory.  A text of slashes alone, or none at all, is the root. -/
def home? (surroundings : Surroundings) (user : String) : Option Path :=
  (homeText? surroundings user).bind fun text =>
    if text.startsWith "~" then none
    else if text.toList.all (· == '/') then some Path.root
    else some (Path.ofText text)

/-- The path with a home directory in the place of a first name that begins with a tilde.
Behind the tilde stands the name of the user. -/
def expandHome (surroundings : Surroundings) (path : Path) : Except Error Path :=
  match path.isAbsolute, path.names with
  | false, name :: names =>
      match name.toList with
      | '~' :: user =>
          match home? surroundings (String.ofList user) with
          | some home => .ok { home with names := home.names ++ names }
          | none => .error .home
      | _ => .ok path
  | _, _ => .ok path

def projectFileIn (directory : Path) : Path :=
  directory.child "pyproject.toml"

/-- The content of the file at a path, if there is one. -/
def contentAt (surroundings : Surroundings) (path : Path) :
    Except Error (Option (List UInt8)) :=
  if surroundings.isOverlong path then .error .unreachable
  else .ok (surroundings.content? path)

/-- The first of several paths for which there is a file, with the content of that file. -/
def firstWithFile (surroundings : Surroundings) (fileOf : Path → Path) :
    List Path → Except Error (Option (Path × List UInt8))
  | [] => .ok none
  | path :: others => do
      match ← contentAt surroundings (fileOf path) with
      | some content => return some (path, content)
      | none => firstWithFile surroundings fileOf others

/-- The place that a variable names, if it is set. -/
def namedPlaces (surroundings : Surroundings) : Except Error (List Path) :=
  match surroundings.filled? pathVariable with
  | none => .ok []
  | some text => (expandHome surroundings (Path.ofText text)).map fun path => [path]

/-- The place in the nearest directory above the program that holds the file of a project. -/
def projectPlaces (surroundings : Surroundings) : Except Error (List Path) :=
  (firstWithFile surroundings projectFileIn surroundings.program.parents).map fun root =>
    (root.map fun found => fileIn found.1).toList

/-- The first file that is found.  The project is asked for only if there is no file before. -/
def search (surroundings : Surroundings) : Except Error (Option (Path × List UInt8)) := do
  let named ← namedPlaces surroundings
  match ← firstWithFile surroundings id (named ++ [fileIn surroundings.workingDirectory]) with
  | some file => return some file
  | none => firstWithFile surroundings id (← projectPlaces surroundings)

/-- The path and the content of the file.  A given file must exist; otherwise a file
must be found only if `strict`. -/
def locate (surroundings : Surroundings) (given : Option Path) (strict : Bool) :
    Except Error (Option (Path × List UInt8)) := do
  match given with
  | some path =>
      match ← contentAt surroundings path with
      | some content => return some (path, content)
      | none => throw (.missing path.toText)
  | none =>
      match ← search surroundings with
      | some file => return some file
      | none => if strict then throw .notFound else return none

/-! ## What the file says -/

/-- A text that is not empty. -/
def filledText? (table : List (Datum × Datum)) (key : String) : Option String :=
  match Datum.get? table key with
  | some (.text value) => if value = "" then none else some value
  | _ => none

/-- The timeout as a number; only an integer can be beyond the range. -/
def timeoutOf (value : Option Datum) : Except Error Binary64 :=
  match value with
  | some (.float value) => .ok value
  | some (.int value) =>
      match Binary64.ofInt? value with
      | some value => .ok value
      | none => .error .timeout
  | _ => .ok defaultTimeout

/-- The names in a list; any other value holds none. -/
def structuresOf [Runtime] : Option Datum → Except Error (List String)
  | some (.list items) => (items.mapM Datum.toText).mapError .structures
  | _ => .ok []

/-- The settings in a table. -/
def ofTable [Runtime] (table : List (Datum × Datum)) (source : Path) : Except Error Settings := do
  let structures ← structuresOf (Datum.get? table "structures")
  let timeout ← timeoutOf (Datum.get? table "timeout")
  return {
    endpoint := (filledText? table "endpoint").getD defaultEndpoint
    username := filledText? table "username"
    password := filledText? table "password"
    structures := structures
    timeout := timeout
    source := some source }

/-- The table of the settings in a document; any other value holds nothing. -/
def tableOf (document : Datum) : List (Datum × Datum) :=
  match document with
  | .mapping entries =>
      match Datum.get? entries "bridge" with
      | some (.mapping table) => table
      | _ => []
  | _ => []

/-- The settings in the content of a file. -/
def ofContent [Runtime] (source : Path) (content : List UInt8) : Except Error Settings := do
  match Text.Utf8.decode? content with
  | none => throw .encoding
  | some text =>
      let contents ← (Toml.read text).mapError .document
      ofTable (tableOf contents.toDatum) source

/-! ## All together -/

/-- The settings with those that environment variables give. -/
def override (surroundings : Surroundings) (settings : Settings) : Settings :=
  { settings with
    endpoint := (surroundings.filled? endpointVariable).getD settings.endpoint
    username := (surroundings.filled? usernameVariable).or settings.username
    password := (surroundings.filled? passwordVariable).or settings.password }

/-- Loads the settings from a given file, or from the first that is found. -/
def load [Runtime] (surroundings : Surroundings) (given : Option Path) (strict : Bool) :
    Except Error Settings := do
  match ← locate surroundings given strict with
  | none => return default.override surroundings
  | some (path, content) => return (← ofContent path content).override surroundings

end Settings

end QueryBridge
