import QueryBridge.Cli.Session
import QueryBridge.Http.Recording
import QueryBridge.Runtime.Standard

/-!
# The program

The program runs one command line.  The service's replies are a recording on the
standard input; results go to the standard output, and log lines and errors to the
standard error.  What a run needs of its surroundings is gathered first: some
environment variables, and the files in which settings and structures can be.
-/

namespace QueryBridge.Program

def variableNames : List String :=
  [Settings.homeVariable, Settings.pathVariable, Settings.endpointVariable,
    Settings.usernameVariable, Settings.passwordVariable, Cli.logLevelVariable]

def readEnvironment : IO (List (String × String)) :=
  variableNames.filterMapM fun name => do
    return (← IO.getEnv name).map fun value => (name, value)

/-- The home directories in the system's list of users. -/
def readHomes : IO (List (String × String)) := do
  try
    let lines ← IO.FS.lines "/etc/passwd"
    return lines.toList.filterMap fun line =>
      match Text.splitOn ':' line.toList with
      | [user, _, _, _, _, home, _] => some (String.ofList user, String.ofList home)
      | _ => none
  catch _ => return []

/-- Adds the file at a path to the surroundings, if it can be read. -/
def addFile (surroundings : Surroundings) (path : String) : IO Surroundings := do
  try
    let content ← IO.FS.readBinFile path
    return { surroundings with
      files := surroundings.files.insert surroundings.workingDirectory path content.toList }
  catch _ => return surroundings

/-- The paths that a command line names. -/
def givenPaths (arguments : List String) : List String :=
  match Cli.Arguments.inFront Cli.Invocation.options arguments with
  | .ok parsed => parsed.values .config ++ parsed.values .structures
  | .error _ => []

/-- The paths at which settings are looked for. -/
def settingsPaths (surroundings : Surroundings) : List String :=
  let places := (Settings.namedPlaces surroundings).toOption.getD [] ++
    [Settings.fileIn surroundings.workingDirectory] ++
    (Settings.projectPlaces surroundings).toOption.getD []
  places.map Path.toText

def gather (arguments : List String) : IO Surroundings := do
  let environment ← readEnvironment
  let workingDirectory := Path.ofText (← IO.currentDir).toString
  let program := Path.ofText (← IO.appPath).toString
  let surroundings ← program.parents.foldlM (fun surroundings directory =>
    addFile surroundings (Settings.projectFileIn directory).toText)
    ⟨environment, ⟨[]⟩, workingDirectory, program, ← readHomes⟩
  (givenPaths arguments ++ settingsPaths surroundings).foldlM addFile surroundings

/-- The string with its unpaired surrogates escaped. -/
def spell (string : CodeString) : String :=
  String.ofList (string.codes.flatMap fun code =>
    if code.isValidChar then [Char.ofNat code] else Text.escapeCode code)

/-- Writes what a run shows. -/
def present (session : Cli.Session) : IO Unit := do
  for record in session.records do
    IO.eprintln (spell record.line)
  for error in session.errors do
    IO.eprintln error
  if let some escape := session.escape then
    IO.eprintln escape.message
  IO.print session.output

end QueryBridge.Program

open QueryBridge in
/-- Runs the command line that the program was started with. -/
def main (arguments : List String) : IO UInt32 := do
  let surroundings ← Program.gather arguments
  match Http.Recording.read? (← (← IO.getStdin).readToEnd) with
  | none =>
      IO.eprintln "The recording of the service's replies cannot be read."
      return 1
  | some replies =>
      let session := Cli.run surroundings arguments replies
      Program.present session
      return UInt32.ofNat session.exitCode
