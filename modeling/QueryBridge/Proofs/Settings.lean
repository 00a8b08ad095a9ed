import QueryBridge.Cli.Session
import QueryBridge.Proofs.Datum
import QueryBridge.Proofs.Failure
import QueryBridge.Proofs.Settings.Places
import QueryBridge.Runtime.Standard

/-!
# Where settings come from

Settings come from the first file among the places in which one can be, or from the given file
alone.  Of each setting the first value counts that is given and not empty: on the command line,
in the environment, in the file.  Nothing but the environment and that one file matters.
-/

namespace QueryBridge.Settings

open QueryBridge.Decimal (Binary64)

/-! ## Values that are given -/

/-- The first of the values that is given and not empty. -/
def firstFilled (values : List (Option String)) : Option String :=
  (values.filterMap id).find? (· != "")

theorem firstFilled_cons (value : Option String) (others : List (Option String)) :
    firstFilled (value :: others) = (value.filter (· != "")).or (firstFilled others) := by
  unfold firstFilled
  cases value with
  | none => rfl
  | some text => by_cases hempty : text = "" <;> simp [hempty, Option.filter]

theorem getD_getD {α : Type} (first second : Option α) (last : α) :
    first.getD (second.getD last) = (first.or second).getD last := by
  cases first <;> rfl

variable {surroundings : Surroundings} {path : Path} {given : Option Path} {strict : Bool}

/-! ## The settings of a table -/

/-- The text under a key. -/
def textAt? (table : List (Datum × Datum)) (key : String) : Option String :=
  match Datum.get? table key with
  | some (.text value) => some value
  | _ => none

/-- The texts of the members of a list; any other value has none. -/
def namesIn : Option Datum → List String
  | some (.list items) => items.map Datum.display
  | _ => []

/-- The number that a timeout is; a value that is no number counts as absent. -/
inductive IsTimeout : Option Datum → Binary64 → Prop
  | float (value : Binary64) : IsTimeout (some (.float value)) value
  | int {n : Int} {value : Binary64} (h : Binary64.ofInt? n = some value) :
      IsTimeout (some (.int n)) value
  | other {value : Option Datum} (hfloat : ∀ number, value ≠ some (.float number))
      (hint : ∀ n, value ≠ some (.int n)) : IsTimeout value defaultTimeout

/-- Of the endpoint the first value counts that is given and not empty: the given one, that of
the environment, that of the table, the default; the credentials are taken in the same way, each
on its own.  All other settings are those of the table. -/
structure AreResolved (surroundings : Surroundings) (given : Option String)
    (table : List (Datum × Datum)) (source : Option Path) (settings : Settings) : Prop where
  endpoint : settings.endpoint = (firstFilled [given, surroundings.valueOf? endpointVariable,
    textAt? table "endpoint"]).getD defaultEndpoint
  username : settings.username =
    firstFilled [surroundings.valueOf? usernameVariable, textAt? table "username"]
  password : settings.password =
    firstFilled [surroundings.valueOf? passwordVariable, textAt? table "password"]
  structures : settings.structures = namesIn (Datum.get? table "structures")
  timeout : IsTimeout (Datum.get? table "timeout") settings.timeout
  source : settings.source = source

variable {table : List (Datum × Datum)} {content : List UInt8} {source : Option Path}
  {settings : Settings}

theorem filled?_eq (surroundings : Surroundings) (name : String) :
    surroundings.filled? name = firstFilled [surroundings.valueOf? name] := by
  rw [firstFilled_cons]
  exact (Option.or_none).symm

theorem filledText?_eq (table : List (Datum × Datum)) (key : String) :
    filledText? table key = firstFilled [textAt? table key] := by
  rw [firstFilled_cons]
  unfold filledText? textAt?
  cases Datum.get? table key with
  | none => rfl
  | some value =>
      cases value with
      | text value => by_cases hempty : value = "" <;> simp [hempty, firstFilled, Option.filter]
      | _ => rfl

theorem or_firstFilled (value : Option String) (others : List (Option String)) :
    (firstFilled [value]).or (firstFilled others) = firstFilled (value :: others) := by
  rw [firstFilled_cons, firstFilled_cons value others]
  exact congrArg (Option.or · _) Option.or_none

/-- What the environment overrides. -/
theorem areResolved_override {structures : List String} {timeout : Binary64}
    (hstructures : structures = namesIn (Datum.get? table "structures"))
    (htimeout : IsTimeout (Datum.get? table "timeout") timeout) :
    AreResolved surroundings none table source (override surroundings
      ⟨(filledText? table "endpoint").getD defaultEndpoint, filledText? table "username",
        filledText? table "password", structures, timeout, source⟩) := by
  refine ⟨?_, ?_, ?_, hstructures, htimeout, rfl⟩
  · change (surroundings.filled? endpointVariable).getD
      ((filledText? table "endpoint").getD defaultEndpoint) = _
    rw [filled?_eq, filledText?_eq, getD_getD, or_firstFilled]
    rfl
  · change (surroundings.filled? usernameVariable).or (filledText? table "username") = _
    rw [filled?_eq, filledText?_eq, or_firstFilled]
  · change (surroundings.filled? passwordVariable).or (filledText? table "password") = _
    rw [filled?_eq, filledText?_eq, or_firstFilled]

theorem areResolved_default (surroundings : Surroundings) :
    AreResolved surroundings none [] none (override surroundings default) :=
  areResolved_override rfl (.other nofun nofun)

/-- An endpoint on the command line goes first. -/
theorem AreResolved.withEndpoint (h : AreResolved surroundings none table source settings)
    (given : Option String) :
    AreResolved surroundings given table source
      { settings with endpoint := (given.filter (· != "")).getD settings.endpoint } := by
  refine ⟨?_, h.username, h.password, h.structures, h.timeout, h.source⟩
  have hnone : ∀ others, firstFilled (none :: others) = firstFilled others := fun others => rfl
  rw [firstFilled_cons, ← getD_getD, ← hnone, ← h.endpoint]

theorem failsOnly_timeoutOf (value : Option Datum) :
    FailsOnly (· ≠ Error.notFound) (timeoutOf value) := by
  unfold timeoutOf
  split
  · exact failsOnly_ok _
  · split
    · exact failsOnly_ok _
    · exact failsOnly_error nofun
  · exact failsOnly_ok _

/-! ## What the file holds -/

section

variable [Runtime]

/-- The content of a file is a document, and the table holds its settings. -/
def HoldsTable (content : List UInt8) (table : List (Datum × Datum)) : Prop :=
  ∃ text contents, Text.Utf8.decode? content = some text ∧ Toml.read text = .ok contents ∧
    tableOf contents.toDatum = table

/-- The timeout is in the range of numbers, and all structures can be shown. -/
structure IsConvertible (table : List (Datum × Datum)) : Prop where
  timeout : ∀ n, Datum.Holds table "timeout" (.int n) → ∃ value, Binary64.ofInt? n = some value
  structures : ∀ items, Datum.Holds table "structures" (.list items) →
    ∀ item ∈ items, item.fault? = none

theorem isConvertible_iff {table : List (Datum × Datum)} :
    IsConvertible table ↔
      (match Datum.get? table "timeout" with
        | some (.int n) => (Binary64.ofInt? n).isSome
        | _ => true) = true ∧
      (match Datum.get? table "structures" with
        | some (.list items) => items.all fun item => item.fault?.isNone
        | _ => true) = true := by
  constructor
  · rintro ⟨htimeout, hstructures⟩
    simp only [← Datum.get?_eq_some_iff] at htimeout hstructures
    constructor
    · split
      · next n hn => exact Option.isSome_iff_exists.mpr (htimeout n hn)
      · rfl
    · split
      · next items hitems => simpa using hstructures items hitems
      · rfl
  · rintro ⟨htimeout, hstructures⟩
    constructor
    · intro n hn
      rw [Datum.get?_eq_some_iff.mpr hn] at htimeout
      exact Option.isSome_iff_exists.mp htimeout
    · intro items hitems
      rw [Datum.get?_eq_some_iff.mpr hitems] at hstructures
      simpa using hstructures

instance (table : List (Datum × Datum)) : Decidable (IsConvertible table) :=
  decidable_of_iff _ isConvertible_iff.symm

theorem mapM_toText {items : List Datum} (h : ∀ item ∈ items, item.fault? = none) :
    items.mapM Datum.toText = .ok (items.map Datum.display) := by
  induction items with
  | nil => rfl
  | cons item items ih =>
      rw [List.forall_mem_cons] at h
      rw [List.mapM_cons, Datum.toText_of_fault?_eq_none h.1, ih h.2]
      rfl

theorem structuresOf_of_isConvertible (h : IsConvertible table) :
    structuresOf (Datum.get? table "structures") =
      .ok (namesIn (Datum.get? table "structures")) := by
  cases hvalue : Datum.get? table "structures" with
  | none => rfl
  | some value =>
      cases value with
      | list items =>
          have hitems := h.structures items (Datum.get?_eq_some_iff.mp hvalue)
          rw [structuresOf, mapM_toText hitems]
          rfl
      | _ => rfl

theorem exists_timeoutOf (h : IsConvertible table) :
    ∃ timeout, timeoutOf (Datum.get? table "timeout") = .ok timeout ∧
      IsTimeout (Datum.get? table "timeout") timeout := by
  cases hvalue : Datum.get? table "timeout" with
  | none => exact ⟨defaultTimeout, rfl, .other nofun nofun⟩
  | some value =>
      cases value with
      | float value => exact ⟨value, rfl, .float value⟩
      | int n =>
          obtain ⟨value, hn⟩ := h.timeout n (Datum.get?_eq_some_iff.mp hvalue)
          refine ⟨value, ?_, .int hn⟩
          rw [timeoutOf, hn]
      | _ => exact ⟨defaultTimeout, rfl, .other nofun nofun⟩

theorem exists_ofTable (h : IsConvertible table) (path : Path) (surroundings : Surroundings) :
    ∃ settings, ofTable table path = .ok settings ∧
      AreResolved surroundings none table (some path) (override surroundings settings) := by
  obtain ⟨timeout, htimeout, hisTimeout⟩ := exists_timeoutOf h
  refine ⟨_, ?_, areResolved_override rfl hisTimeout⟩
  unfold ofTable
  rw [structuresOf_of_isConvertible h, htimeout]
  rfl

theorem exists_ofContent (hcontent : HoldsTable content table) (h : IsConvertible table)
    (path : Path) (surroundings : Surroundings) :
    ∃ settings, ofContent path content = .ok settings ∧
      AreResolved surroundings none table (some path) (override surroundings settings) := by
  obtain ⟨text, contents, htext, hread, rfl⟩ := hcontent
  obtain ⟨settings, hsettings, hresolved⟩ := exists_ofTable h path surroundings
  refine ⟨settings, ?_, hresolved⟩
  unfold ofContent
  rw [htext]
  simp only [hread]
  exact hsettings

theorem failsOnly_structuresOf (value : Option Datum) :
    FailsOnly (· ≠ Error.notFound) (structuresOf value) := by
  unfold structuresOf
  split
  · exact failsOnly_mapError nofun
  · exact failsOnly_ok []

/-- What is wrong with a file is never that it was not found. -/
theorem failsOnly_ofContent (path : Path) (content : List UInt8) :
    FailsOnly (· ≠ Error.notFound) (ofContent path content) := by
  unfold ofContent
  split
  · exact failsOnly_error nofun
  · refine FailsOnly.bind (failsOnly_mapError nofun) fun contents => ?_
    refine FailsOnly.bind (failsOnly_structuresOf _) fun structures => ?_
    exact FailsOnly.bind (failsOnly_timeoutOf _) fun timeout => failsOnly_pure _

/-! ## Loading -/

theorem load_of_isSource {content : List UInt8}
    (h : IsSource surroundings given (some (path, content))) (strict : Bool) :
    load surroundings given strict =
      (ofContent path content).map fun settings => settings.override surroundings := by
  unfold load
  rw [locate_of_isSource h]
  change (ofContent path content >>= _) = _
  cases ofContent path content <;> rfl

theorem load_of_locate_error {error : Error} (h : locate surroundings given strict = .error error) :
    load surroundings given strict = .error error := by
  unfold load
  rw [h]
  rfl

theorem load_of_none (h : IsSource surroundings none none) :
    load surroundings none true = .error .notFound ∧
      load surroundings none false = .ok (default.override surroundings) := by
  constructor
  · exact load_of_locate_error (locate_of_none h true)
  · unfold load
    rw [locate_of_none h]
    rfl

/-- Only the environment and the file decide what is loaded. -/
theorem load_congr {others : Surroundings} {given' : Option Path} {file : Path × List UInt8}
    {strict' : Bool} (henvironment : others.environment = surroundings.environment)
    (h : IsSource surroundings given (some file)) (h' : IsSource others given' (some file)) :
    load others given' strict' = load surroundings given strict := by
  rw [load_of_isSource h strict, load_of_isSource h' strict']
  have hoverride : override others = override surroundings := by
    funext settings
    unfold override Surroundings.filled? Surroundings.valueOf?
    rw [henvironment]
  rw [hoverride]

theorem load_eq_notFound_iff :
    load surroundings none true = .error .notFound ↔ IsSource surroundings none none := by
  refine ⟨fun h => ?_, fun h => (load_of_none h).1⟩
  rcases isSource_or_isHomeless_or_isStuck surroundings with
    ⟨found, hsource⟩ | hhomeless | hstuck
  · cases found with
    | none => exact hsource
    | some file =>
        -- once a file is found, only what it holds can be wrong
        rw [load_of_isSource hsource] at h
        exact absurd rfl ((failsOnly_ofContent file.1 file.2).map _ .notFound h)
  · rw [load_of_locate_error (locate_of_search_error (search_of_isHomeless hhomeless) true)] at h
    cases h
  · rw [load_of_locate_error (locate_of_search_error (search_of_isStuck hstuck) true)] at h
    cases h

theorem loadSettings_of_load {invocation : Cli.Invocation}
    (h : load surroundings (invocation.config.map Path.ofText) false = .ok settings) :
    Cli.loadSettings surroundings invocation = .ok { settings with
      endpoint := (invocation.endpoint.filter (· != "")).getD settings.endpoint } := by
  unfold Cli.loadSettings
  rw [h]
  rfl

/-- The settings come from one file: the given one, or the first that is found among those that a
variable, the working directory and the project name.  It must exist if it is given.  Of the
endpoint and the credentials the first value counts that is not empty: on the command line, in
the environment, in that file.  Structures and timeout are those of the file.  No other file
matters.  There is no source only if no place has a file, or if a home directory is not known or a
path cannot be reached. -/
theorem settings_follow_precedence (surroundings : Surroundings) :
    (∀ given path content table strict, IsSource surroundings given (some (path, content)) →
      HoldsTable content table → IsConvertible table →
      ∃ settings, load surroundings given strict = .ok settings ∧
        AreResolved surroundings none table (some path) settings) ∧
    (IsSource surroundings none none →
      ∃ settings, load surroundings none false = .ok settings ∧
        AreResolved surroundings none [] none settings) ∧
    (∀ path strict,
      (surroundings.IsAbsent path →
        load surroundings (some path) strict = .error (.missing path.toText)) ∧
      (surroundings.IsUnreachable path →
        load surroundings (some path) strict = .error .unreachable)) ∧
    (load surroundings none true = .error .notFound ↔ IsSource surroundings none none) ∧
    (¬ IsHomeless surroundings → AreReachable surroundings →
      (IsSource surroundings none none ↔
        ∀ path, IsCandidate surroundings path → ¬ surroundings.IsFile path)) ∧
    ((∃ source, IsSource surroundings none source) ∨
      (IsHomeless surroundings ∧ ∀ strict, load surroundings none strict = .error .home) ∨
      IsStuck surroundings ∧ ∀ strict, load surroundings none strict = .error .unreachable) ∧
    (∀ others given given' file strict, others.environment = surroundings.environment →
      IsSource surroundings given (some file) → IsSource others given' (some file) →
      load others given' strict = load surroundings given strict) ∧
    ∀ invocation table source settings,
      load surroundings (invocation.config.map Path.ofText) false = .ok settings →
      AreResolved surroundings none table source settings →
      ∃ settings', Cli.loadSettings surroundings invocation = .ok settings' ∧
        AreResolved surroundings invocation.endpoint table source settings' := by
  refine ⟨?_, ?_, fun path strict => ⟨fun h => ?_, fun h => ?_⟩, load_eq_notFound_iff,
    isSource_none_iff, ?_, ?_, ?_⟩
  · intro given path content table strict hsource hcontent hconvertible
    obtain ⟨settings, hread, hresolved⟩ :=
      exists_ofContent hcontent hconvertible path surroundings
    refine ⟨_, ?_, hresolved⟩
    rw [load_of_isSource hsource, hread]
    rfl
  · exact fun h => ⟨_, (load_of_none h).2, areResolved_default surroundings⟩
  · exact load_of_locate_error (locate_of_isAbsent h strict)
  · exact load_of_locate_error (locate_of_isUnreachable h strict)
  · refine (isSource_or_isHomeless_or_isStuck surroundings).imp_right (Or.imp ?_ ?_)
    · exact fun h => ⟨h, fun strict =>
        load_of_locate_error (locate_of_search_error (search_of_isHomeless h) strict)⟩
    · exact fun h => ⟨h, fun strict =>
        load_of_locate_error (locate_of_search_error (search_of_isStuck h) strict)⟩
  · exact fun others given given' file strict henvironment h h' => load_congr henvironment h h'
  · exact fun invocation table source settings h hresolved =>
      ⟨_, loadSettings_of_load h, hresolved.withEndpoint invocation.endpoint⟩

end

/-- The file that a variable names below a home directory goes first, although the one in the
working directory is no document; empty values do not count. -/
theorem file_below_home_goes_first :
    let content := Text.Utf8.encode
      "[bridge]\nusername='u'\npassword='q'\nstructures=[1,'A']".toList
    let surroundings : Surroundings := ⟨[(homeVariable, "/h/"), (pathVariable, "~/b.toml"),
        (usernameVariable, ""), (passwordVariable, "p")],
      ⟨[(["h", "b.toml"], .file content), (["w", ".secrets", "bridge.toml"], .file [0x3D])]⟩,
      Path.ofText "/w", Path.ofText "/w/main", []⟩
    ∃ table settings,
      IsSource surroundings none (some (Path.ofText "/h/b.toml", content)) ∧
      HoldsTable content table ∧ IsConvertible table ∧
      load surroundings none true = .ok settings ∧ settings.endpoint = defaultEndpoint ∧
      settings.username = some "u" ∧ settings.password = some "p" ∧
      settings.structures = ["1", "A"] := by
  intro content surroundings
  have hfront : AreFront surroundings
      [Path.ofText "/h/b.toml", Path.ofText "/w/.secrets/bridge.toml"] :=
    ⟨[Path.ofText "/h/b.toml"], namedPlaces_eq_ok_iff.mp (by decide +kernel), by decide +kernel⟩
  have hsource : IsSource surroundings none (some (Path.ofText "/h/b.toml", content)) :=
    .found hfront ⟨[], _, rfl, List.forall_mem_nil _, by decide +kernel, by decide +kernel⟩
  have htext := Text.Utf8.decode?_encode
    "[bridge]\nusername='u'\npassword='q'\nstructures=[1,'A']".toList
  have hvalues : (Toml.read
      "[bridge]\nusername='u'\npassword='q'\nstructures=[1,'A']".toList).map (fun contents =>
        let table := tableOf contents.toDatum
        (decide (IsConvertible table), textAt? table "endpoint", textAt? table "username",
          textAt? table "password", namesIn (Datum.get? table "structures"))) =
      .ok (true, none, some "u", some "q", ["1", "A"]) := by
    decide +kernel
  cases hread : Toml.read "[bridge]\nusername='u'\npassword='q'\nstructures=[1,'A']".toList with
  | error error =>
      rw [hread] at hvalues
      cases hvalues
  | ok contents =>
      rw [hread] at hvalues
      simp only [Except.map, Except.ok.injEq, Prod.mk.injEq, decide_eq_true_eq] at hvalues
      obtain ⟨hconvertible, hendpoint, husername, hpassword, hstructures⟩ := hvalues
      have hcontent : HoldsTable content (tableOf contents.toDatum) :=
        ⟨_, contents, htext, hread, rfl⟩
      obtain ⟨settings, hload, hresolved⟩ := (settings_follow_precedence surroundings).1 none _
        content _ true hsource hcontent hconvertible
      refine ⟨_, settings, hsource, hcontent, hconvertible, hload, ?_, ?_, ?_, ?_⟩
      · rw [hresolved.endpoint, hendpoint]
        rfl
      · rw [hresolved.username, husername]
        rfl
      · rw [hresolved.password, hpassword]
        rfl
      · rw [hresolved.structures, hstructures]

/-- A home directory that is not known ends the loading before it is seen that there is no file,
and an integer with too many digits among the structures ends it although the file decodes. -/
theorem loading_ends_without_settings :
    let homeless : Surroundings := ⟨[(pathVariable, "~nobody/b.toml")], ⟨[]⟩, Path.root,
      Path.root, []⟩
    let content := Text.Utf8.encode
      ("[bridge]\nstructures=[0x".toList ++ List.replicate 3600 'f' ++ [']'])
    let surroundings : Surroundings := ⟨[], ⟨[(["b.toml"], .file content)]⟩, Path.root,
      Path.root, []⟩
    (load homeless none true = .error .home ∧ ∀ path, ¬ homeless.IsFile path) ∧
    ∃ table, HoldsTable content table ∧ Datum.get? table "timeout" = none ∧
      load surroundings (some (Path.ofText "/b.toml")) true = .error (.structures .digits) := by
  intro homeless content surroundings
  have hnoFile : ∀ path, ¬ homeless.IsFile path := fun path hfile => by
    obtain ⟨found, -, hcontent⟩ := hfile
    rw [Surroundings.content?_of_entries_eq_nil rfl path] at hcontent
    cases hcontent
  refine ⟨⟨by decide +kernel, hnoFile⟩, ?_⟩
  have hread : (Toml.read ("[bridge]\nstructures=[0x".toList ++ List.replicate 3600 'f' ++
      [']'])).map (fun contents => (Datum.get? (tableOf contents.toDatum) "timeout").isNone) =
        .ok true := by
    decide +kernel
  cases hcontents : Toml.read ("[bridge]\nstructures=[0x".toList ++ List.replicate 3600 'f' ++
      [']']) with
  | error error =>
      rw [hcontents] at hread
      cases hread
  | ok contents =>
      rw [hcontents] at hread
      refine ⟨_, ⟨_, contents, Text.Utf8.decode?_encode _, hcontents, rfl⟩, ?_, ?_⟩
      · exact Option.isNone_iff_eq_none.mp (Except.ok.inj hread)
      · decide +kernel

end QueryBridge.Settings
