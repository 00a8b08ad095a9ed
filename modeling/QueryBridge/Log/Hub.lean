import QueryBridge.Log.Record

/-!
# Loggers

A hub holds the state that all loggers share: the level and the handlers of the root,
the levels of the named loggers, the loggers in use, and the redactors that have been
made.  A handler writes the records from its level on, in the form that its formatter
gives them.  A logger without a level of its own has that of its nearest ancestor with one;
the ancestors of a logger are named by the beginnings of its name up to a dot.

A handle is what callers log through.  It names a logger and carries extras, among
which the one named `redactorKey` may be a redactor; the redactor masks with the
secrets that it holds when an entry is made.
-/

namespace QueryBridge.Log

/-- How a handler writes a record: with the extras behind the message, or without. -/
inductive Formatter where
  | structured
  | plain
deriving Repr, DecidableEq

/-- A handler of the root. -/
structure Handler where
  level : Level
  formatter : Option Formatter
deriving Repr, DecidableEq

namespace Handler

/-- The handler for a level that is given. -/
def make (environment : Option String) (level : Option Level.Choice) : Handler :=
  ⟨Level.resolve environment level, some .structured⟩

/-- A handler without a formatter gets the plain one. -/
def complete (handler : Handler) : Handler :=
  { handler with formatter := some (handler.formatter.getD .plain) }

end Handler

/-- The state that all loggers share. -/
structure Hub where
  configured : Bool
  rootLevel : Level
  rootHandlers : List Handler
  /-- The levels of named loggers, where they have been set. -/
  levels : Fields Level
  /-- The named loggers in use. -/
  inUse : List String
  redactors : List Redactor
deriving Repr

/-- An extra that a handle carries. -/
inductive Extra where
  | value (value : Json.Value)
  | redactor (index : Nat)
deriving Repr

/-- A logger with the extras of all entries that are made through it. -/
structure Handle where
  logger : String
  extras : Fields Extra
deriving Repr

def redactorKey : String := "_redactor"

def rootName : String := "root"

/-- The null values among extras do not count. -/
def dropNulls (extras : Fields Json.Value) : Fields Extra :=
  extras.filterMap fun extra =>
    match extra.2 with
    | .null => none
    | value => some (extra.1, .value value)

namespace Handle

/-- A handle with further extras; the given one is left as it is. -/
def bind (handle : Handle) (extras : Fields Json.Value) : Handle :=
  { handle with extras := Fields.override handle.extras (dropNulls extras) }

/-- A handle whose entries are masked by a redactor. -/
def bindRedactor (handle : Handle) (redactor : Nat) : Handle :=
  { handle with extras := Fields.insert redactorKey (.redactor redactor) handle.extras }

end Handle

namespace Hub

/-- No handler, and the root at the level of warnings. -/
def initial : Hub := ⟨false, Level.warning, [], [], [], []⟩

/-! ## Configuration -/

/-- The levels of the root's handlers. -/
def handlers (hub : Hub) : List Level :=
  hub.rootHandlers.map Handler.level

/-- Gives handlers and a level to a root without handlers; `force` takes those away that it
has. -/
def install (hub : Hub) (level : Level) (handlers : List Handler) (force : Bool) : Hub :=
  let present := if force then [] else hub.rootHandlers
  if present.isEmpty then
    { hub with rootLevel := level, rootHandlers := handlers.map Handler.complete }
  else
    { hub with rootHandlers := present }

/-- Installs a handler on the root and sets the root's level, both at the given level.
Without `force` this happens only once. -/
def configure (hub : Hub) (environment : Option String) (level : Option Level.Choice)
    (force : Bool) : Hub :=
  if hub.configured && !force then
    hub
  else
    let installed := hub.install (Level.resolve environment level)
      [Handler.make environment level] force
    { installed with configured := true }

/-! ## Named loggers -/

def normalName (name : String) : String :=
  if name = "" then rootName else name

/-- The beginnings of a name up to each of its dots, and the whole name, longest first.
`before` is the part that has been passed, in reverse. -/
private def lineageFrom (before : List Char) : List Char → List String
  | [] => [String.ofList before.reverse]
  | c :: rest =>
      let longer := lineageFrom (c :: before) rest
      if c = '.' then longer ++ [String.ofList before.reverse] else longer

/-- A logger's name and those of its ancestors, the nearest first. -/
def lineage (name : String) : List String :=
  if name = rootName then [rootName]
  else (lineageFrom [] name.toList).filter (· != "") ++ [rootName]

private theorem mem_lineageFrom (before rest : List Char) :
    String.ofList (before.reverse ++ rest) ∈ lineageFrom before rest := by
  induction rest generalizing before with
  | nil => simp [lineageFrom]
  | cons c rest ih =>
      have hlonger : String.ofList (before.reverse ++ c :: rest) ∈
          lineageFrom (c :: before) rest := by
        simpa using ih (c :: before)
      unfold lineageFrom
      dsimp only
      split
      · exact List.mem_append_left _ hlonger
      · exact hlonger

/-- A logger belongs to its own lineage. -/
theorem mem_lineage {name : String} (h : name ≠ "") : name ∈ lineage name := by
  have hwhole : name ∈ lineageFrom [] name.toList := by
    simpa using mem_lineageFrom [] name.toList
  unfold lineage
  split
  · next hroot => simp [hroot]
  · simp [hwhole, h]

/-- The level that has been set for a logger, zero if none has. -/
def ownLevel (hub : Hub) (name : String) : Level :=
  if name = rootName then hub.rootLevel else (Fields.get? hub.levels name).getD 0

def setLevel (hub : Hub) (name : String) (level : Level) : Hub :=
  if name = rootName then { hub with rootLevel := level }
  else { hub with levels := Fields.insert name level hub.levels }

def effectiveLevel (hub : Hub) (name : String) : Level :=
  (((lineage name).map hub.ownLevel).find? (· != 0)).getD 0

/-- Puts a logger to use. -/
def register (hub : Hub) (name : String) : Hub :=
  if hub.inUse.contains name then hub else { hub with inUse := hub.inUse ++ [name] }

/-- A logger with extras; configures the root if that has not happened. -/
def getLogger (hub : Hub) (environment : Option String) (name : String)
    (level : Option Level.Choice) (extras : Fields Json.Value) : Hub × Handle :=
  let name := normalName name
  let hub := (hub.configure environment level false).register name
  let hub := match level with
    | none => hub
    | some choice => hub.setLevel name (Level.resolve environment (some choice))
  (hub, ⟨name, Fields.ofList (dropNulls extras)⟩)

/-- A logger without extras, with no configuration. -/
def rawLogger (hub : Hub) (name : String) : Hub × Handle :=
  let name := normalName name
  (hub.register name, ⟨name, []⟩)

/-! ## Redactors -/

def addRedactor (hub : Hub) (secrets : List CodeString) : Hub × Nat :=
  ({ hub with redactors := hub.redactors ++ [Redactor.empty.add secrets] },
    hub.redactors.length)

def updateRedactor (hub : Hub) (index : Nat) (change : Redactor → Redactor) : Hub :=
  { hub with redactors := hub.redactors.modify index change }

def redactor (hub : Hub) (index : Nat) : Redactor :=
  hub.redactors[index]?.getD .empty

/-! ## Entries -/

/-- Whether a logger makes entries of a level; none are made of level zero or below. -/
def isEnabled (hub : Hub) (logger : String) (level : Level) : Bool :=
  0 < level && hub.effectiveLevel logger ≤ level

def plainExtras (extras : Fields Extra) : Fields Json.Value :=
  extras.filterMap fun extra =>
    match extra.2 with
    | .value value => some (extra.1, value)
    | .redactor _ => none

/-- Masks a record by the redactor among its extras, if there is one. -/
def maskBy (hub : Hub) (extras : Fields Extra) (record : Record) : Record :=
  match Fields.get? extras redactorKey with
  | some (.redactor index) => record.redact (hub.redactor index)
  | some (.value _) | none => record

/-- An extra has the name of a record's attribute. -/
inductive Clash where
  | attribute (name : String)
deriving Repr, DecidableEq

/-- Makes an entry: one record for each logger in use that the entry reaches. -/
def log (hub : Hub) (handle : Handle) (message : CodeString) (level : Level)
    (extras : Fields Json.Value) : Except Clash (List Record) :=
  let merged := Fields.override handle.extras (dropNulls extras)
  if !hub.isEnabled handle.logger level then
    .ok []
  else
    match (Fields.names merged).find? attributeNames.contains with
    | some name => .error (.attribute name)
    | none =>
        let record := hub.maskBy merged ⟨level, handle.logger, message, plainExtras merged⟩
        .ok (((lineage handle.logger).filter hub.inUse.contains).map fun _ => record)

end Hub

end QueryBridge.Log
