import QueryBridge.Cli.Session
import QueryBridge.Proofs.Files.Lookup
import QueryBridge.Proofs.Registry.Failure
import QueryBridge.Runtime.Standard

/-!
# Runs with a structure file

The path of a structure file on the command line leads to a file.  If the file gives no registry,
the run ends before its command.  It shows the error if the error is reported, and otherwise the
error escapes.
-/

namespace QueryBridge.Cli

open QueryBridge.Registry (AreUsable IsCovered IsDocument IsFileFault IsUnreported LoadError ofFile)

variable {surroundings : Surroundings} {arguments : List String} {invocation : Invocation}
  {file : String}

theorem exists_content_of_checkFile
    (h : Invocation.checkFile surroundings (some file) = .ok ()) :
    ∃ content, surroundings.find? file = some (.file content) := by
  unfold Invocation.checkFile at h
  cases hfound : surroundings.find? file with
  | none => simp [hfound] at h
  | some entry =>
      cases entry with
      | directory => simp [hfound] at h
      | file content => exact ⟨content, rfl⟩

/-- A command line is read only if the path of its structure file leads to a file. -/
theorem exists_content_of_parse (h : Invocation.parse surroundings arguments = .ok invocation)
    (hfile : invocation.structures = some file) :
    ∃ content, surroundings.find? file = some (.file content) := by
  obtain ⟨parsed, -, h⟩ := exists_of_bind_eq_ok h
  obtain ⟨⟨⟩, -, h⟩ := exists_of_bind_eq_ok h
  obtain ⟨⟨⟩, hcheck, h⟩ := exists_of_bind_eq_ok h
  have hstructures : invocation.structures = parsed.value? .structures := by
    split at h
    · cases h
    · split at h
      · cases h
      · cases h
        rfl
  rw [← hstructures, hfile] at hcheck
  exact exists_content_of_checkFile hcheck

/-- A run without settings ends with what is wrong with them. -/
theorem run_of_loadSettings_error [Runtime] {fault : Settings.Error}
    (h : Invocation.parse surroundings arguments = .ok invocation)
    (hsettings : loadSettings surroundings invocation = .error fault) (replies : List Http.Reply) :
    run surroundings arguments replies = Session.escaped (.settings fault) := by
  have hprepare : prepare surroundings invocation = .error (Session.escaped (.settings fault)) := by
    simp only [prepare, hsettings, Except.mapError, bind, Except.bind]
  rw [run, h]
  dsimp only
  rw [hprepare]

/-- A run without a registry ends with what is wrong with it. -/
theorem run_of_loadRegistry_error [Runtime] {settings : Settings} {error : LoadError}
    (h : Invocation.parse surroundings arguments = .ok invocation)
    (hsettings : loadSettings surroundings invocation = .ok settings)
    (hregistry : loadRegistry surroundings invocation settings = .error error)
    (replies : List Http.Reply) :
    run surroundings arguments replies =
      if error.isReported then Session.refused error.message
      else Session.escaped (.structures error) := by
  have hprepare : prepare surroundings invocation = .error
      (if error.isReported then Session.refused error.message
        else Session.escaped (.structures error)) := by
    simp only [prepare, hsettings, hregistry, Except.mapError, bind, Except.bind]
  rw [run, h]
  dsimp only
  rw [hprepare]

/-- The registry of a structure file is read under the text of the file's path. -/
theorem loadRegistry_of_find? [Runtime] {content : List UInt8}
    (hfile : invocation.structures = some file)
    (h : surroundings.find? file = some (.file content)) (settings : Settings) :
    loadRegistry surroundings invocation settings =
      ofFile (Path.ofText file).toText (some content) := by
  simp only [loadRegistry, hfile, Surroundings.content?_ofText h]

/-- Surroundings with one file, which has the bytes. -/
def surroundingsWithFile (bytes : List UInt8) : Surroundings :=
  ⟨[], ⟨[(["s.yaml"], .file bytes)]⟩, Path.root, Path.root, []⟩

/-- The command line that lists the structures of the file. -/
def listFile : List String :=
  ["--structures", "./s.yaml", "structures", "list"]

/-- What is read of the command line. -/
def listInvocation : Invocation :=
  ⟨none, some "./s.yaml", none, none, .structures, ["list"]⟩

end QueryBridge.Cli
