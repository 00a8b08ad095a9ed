import QueryBridge.Proofs.Files
import QueryBridge.Settings

/-!
# Where the file of the settings is

If no file is given, one is looked for at the place that a variable names, in the working directory
and in the project that the program belongs to.  A place is looked at only if there is no file at
those in front of it, and the project is only looked for then.  The search ends at a place of which
it cannot be told whether a file is there.
-/

namespace QueryBridge.Settings

open QueryBridge.Surroundings (HasContent IsAbsent IsBlocked IsFile IsFirstFile IsSet IsUnreachable)

/-! ## Places -/

/-- The path begins with the home directory of a user. -/
def atHome (user : String) (names : List String) : Path :=
  ⟨"", ("~" ++ user) :: names⟩

/-- What a path stands for. -/
inductive IsExpansion (surroundings : Surroundings) : Path → Path → Prop
  | home {user : String} {names : List String} {home : Path}
      (h : home? surroundings user = some home) :
      IsExpansion surroundings (atHome user names) { home with names := home.names ++ names }
  | plain {path : Path} (h : ∀ user names, path ≠ atHome user names) :
      IsExpansion surroundings path path

/-- The place that a variable names, if it is set. -/
inductive AreNamed (surroundings : Surroundings) : List Path → Prop
  | unset (h : ∀ text, ¬ surroundings.IsSet pathVariable text) : AreNamed surroundings []
  | set {text : String} {path : Path} (h : surroundings.IsSet pathVariable text)
      (hpath : IsExpansion surroundings (Path.ofText text) path) : AreNamed surroundings [path]

/-- A variable names a place below a home directory that is not known. -/
def IsHomeless (surroundings : Surroundings) : Prop :=
  ∃ text user names, surroundings.IsSet pathVariable text ∧ Path.ofText text = atHome user names ∧
    home? surroundings user = none

/-- The nearest directory above the program that holds the file of a project. -/
structure IsProjectRoot (surroundings : Surroundings) (root : Path) : Prop where
  above : root.IsAbove surroundings.program
  project : surroundings.IsFile (projectFileIn root)
  nearest : ∀ other : Path, other.IsAbove surroundings.program →
    root.names.length < other.names.length → surroundings.IsAbsent (projectFileIn other)

/-- The place in the project that the program belongs to, if there is one. -/
inductive AreInProject (surroundings : Surroundings) : List Path → Prop
  | outside (h : ∀ directory : Path, directory.IsAbove surroundings.program →
      surroundings.IsAbsent (projectFileIn directory)) : AreInProject surroundings []
  | inside {root : Path} (h : IsProjectRoot surroundings root) :
      AreInProject surroundings [fileIn root]

/-- The places that are looked at before the project is looked for. -/
def AreFront (surroundings : Surroundings) (places : List Path) : Prop :=
  ∃ named, AreNamed surroundings named ∧
    places = named ++ [fileIn surroundings.workingDirectory]

/-- The file can be at the path: a variable names it, or it is in the working directory or in the
project. -/
def IsCandidate (surroundings : Surroundings) (path : Path) : Prop :=
  ∃ places, (AreFront surroundings places ∨ AreInProject surroundings places) ∧ path ∈ places

/-- Of every candidate, and of every place where the project could be, it can be told whether
there is a file. -/
structure AreReachable (surroundings : Surroundings) : Prop where
  candidate : ∀ path, IsCandidate surroundings path → ¬ surroundings.IsUnreachable path
  project : ∀ directory : Path, directory.IsAbove surroundings.program →
    ¬ surroundings.IsUnreachable (projectFileIn directory)

/-! ## The outcomes of the search -/

/-- The file that the settings come from, if any: the given one, or the first one that is found. -/
inductive IsSource (surroundings : Surroundings) :
    Option Path → Option (Path × List UInt8) → Prop
  | given {path : Path} {content : List UInt8} (h : surroundings.HasContent path content) :
      IsSource surroundings (some path) (some (path, content))
  | found {front : List Path} {path : Path} {content : List UInt8}
      (hfront : AreFront surroundings front)
      (h : surroundings.IsFirstFile id front path content) :
      IsSource surroundings none (some (path, content))
  | project {front : List Path} {root : Path} {content : List UInt8}
      (hfront : AreFront surroundings front)
      (habsent : ∀ place ∈ front, surroundings.IsAbsent place)
      (hroot : IsProjectRoot surroundings root)
      (h : surroundings.HasContent (fileIn root) content) :
      IsSource surroundings none (some (fileIn root, content))
  | none {front project : List Path} (hfront : AreFront surroundings front)
      (habsent : ∀ place ∈ front, surroundings.IsAbsent place)
      (hproject : AreInProject surroundings project)
      (h : ∀ place ∈ project, surroundings.IsAbsent place) : IsSource surroundings none none

/-- The search ends at a path that cannot be reached: a place, or where the project could be. -/
inductive IsStuck (surroundings : Surroundings) : Prop
  | front {front : List Path} (hfront : AreFront surroundings front)
      (h : surroundings.IsBlocked id front)
  | project {front : List Path} (hfront : AreFront surroundings front)
      (habsent : ∀ place ∈ front, surroundings.IsAbsent place)
      (h : surroundings.IsBlocked projectFileIn surroundings.program.parents)
  | file {front : List Path} {root : Path} (hfront : AreFront surroundings front)
      (habsent : ∀ place ∈ front, surroundings.IsAbsent place)
      (hroot : IsProjectRoot surroundings root) (h : surroundings.IsUnreachable (fileIn root))

/-! ## Home directories -/

variable {surroundings : Surroundings} {path : Path} {places : List Path}

theorem expandHome_atHome (surroundings : Surroundings) (user : String) (names : List String) :
    expandHome surroundings (atHome user names) =
      match home? surroundings user with
      | some home => .ok { home with names := home.names ++ names }
      | none => .error .home := by
  have hchars : ("~" ++ user).toList = '~' :: user.toList := String.toList_append
  cases hhome : home? surroundings user <;>
    simp [expandHome, atHome, Path.isAbsolute, hchars, hhome]

theorem expandHome_of_ne (h : ∀ user names, path ≠ atHome user names) :
    expandHome surroundings path = .ok path := by
  unfold expandHome
  split
  · next name names habsolute hnames =>
      split
      · next user hchars =>
          -- such a path would begin at the home directory of a user
          obtain ⟨anchor, all⟩ := path
          have hanchor : anchor = "" := by simpa [Path.isAbsolute] using habsolute
          have hname : name = "~" ++ String.ofList user := by
            rw [← String.toList_inj, hchars, String.toList_append, String.toList_ofList,
              String.toList_ofList]
            rfl
          subst hanchor hname hnames
          exact absurd rfl (h (String.ofList user) names)
      · rfl
  · rfl

theorem expandHome_eq_ok_iff {expanded : Path} :
    expandHome surroundings path = .ok expanded ↔ IsExpansion surroundings path expanded := by
  constructor
  · intro h
    by_cases hhome : ∃ user names, path = atHome user names
    · obtain ⟨user, names, rfl⟩ := hhome
      rw [expandHome_atHome] at h
      cases hknown : home? surroundings user with
      | none =>
          rw [hknown] at h
          cases h
      | some home =>
          rw [hknown] at h
          cases h
          exact .home hknown
    · have hother : ∀ user names, path ≠ atHome user names := fun user names heq =>
        hhome ⟨user, names, heq⟩
      rw [expandHome_of_ne hother] at h
      cases h
      exact .plain hother
  · intro h
    cases h with
    | home hknown => rw [expandHome_atHome, hknown]
    | plain hother => exact expandHome_of_ne hother

theorem expandHome_eq_error_iff {error : Error} :
    expandHome surroundings path = .error error ↔
      error = .home ∧ ∃ user names, path = atHome user names ∧ home? surroundings user = none := by
  constructor
  · intro h
    by_cases hhome : ∃ user names, path = atHome user names
    · obtain ⟨user, names, rfl⟩ := hhome
      rw [expandHome_atHome] at h
      cases hknown : home? surroundings user with
      | none =>
          rw [hknown] at h
          cases h
          exact ⟨rfl, user, names, rfl, hknown⟩
      | some home =>
          rw [hknown] at h
          cases h
    · rw [expandHome_of_ne fun user names heq => hhome ⟨user, names, heq⟩] at h
      cases h
  · rintro ⟨rfl, user, names, rfl, hunknown⟩
    rw [expandHome_atHome, hunknown]

theorem namedPlaces_eq_ok_iff {named : List Path} :
    namedPlaces surroundings = .ok named ↔ AreNamed surroundings named := by
  unfold namedPlaces
  cases hset : surroundings.filled? pathVariable with
  | none =>
      have hunset := Surroundings.filled?_eq_none_iff.mp hset
      constructor
      · rintro ⟨⟩
        exact .unset hunset
      · intro h
        cases h with
        | unset => rfl
        | set h => exact absurd h (hunset _)
  | some text =>
      have hisSet := Surroundings.filled?_eq_some_iff.mp hset
      constructor
      · intro h
        cases hexpanded : expandHome surroundings (Path.ofText text) with
        | error error =>
            simp only [hexpanded] at h
            cases h
        | ok path =>
            simp only [hexpanded] at h
            cases h
            exact .set hisSet (expandHome_eq_ok_iff.mp hexpanded)
      · intro h
        cases h with
        | unset h => exact absurd hisSet (h text)
        | set h hpath =>
            rw [← Surroundings.filled?_eq_some_iff, hset] at h
            cases h
            simp only [expandHome_eq_ok_iff.mpr hpath]
            rfl

theorem namedPlaces_eq_error_iff {error : Error} :
    namedPlaces surroundings = .error error ↔ error = .home ∧ IsHomeless surroundings := by
  unfold namedPlaces
  constructor
  · intro h
    cases hset : surroundings.filled? pathVariable with
    | none =>
        rw [hset] at h
        cases h
    | some text =>
        rw [hset] at h
        cases hexpanded : expandHome surroundings (Path.ofText text) with
        | error other =>
            simp only [hexpanded] at h
            cases h
            obtain ⟨rfl, user, names, hpath, hunknown⟩ := expandHome_eq_error_iff.mp hexpanded
            exact ⟨rfl, text, user, names, Surroundings.filled?_eq_some_iff.mp hset, hpath,
              hunknown⟩
        | ok path =>
            simp only [hexpanded] at h
            cases h
  · rintro ⟨rfl, text, user, names, hset, hpath, hunknown⟩
    rw [Surroundings.filled?_eq_some_iff.mpr hset]
    simp only [expandHome_eq_error_iff.mpr ⟨rfl, user, names, hpath, hunknown⟩]
    rfl

/-! ## The first file -/

variable {fileOf : Path → Path} {content : List UInt8}

theorem contentAt_of_hasContent (h : surroundings.HasContent path content) :
    contentAt surroundings path = .ok (some content) := by
  rw [contentAt, h.1, h.2]
  rfl

theorem contentAt_of_isAbsent (h : surroundings.IsAbsent path) :
    contentAt surroundings path = .ok none := by
  rw [contentAt, h.1, h.2]
  rfl

theorem contentAt_of_isUnreachable (h : surroundings.IsUnreachable path) :
    contentAt surroundings path = .error .unreachable := by
  rw [contentAt, h]
  rfl

/-- Places without a file are passed. -/
theorem firstWithFile_append (h : ∀ place ∈ places, surroundings.IsAbsent (fileOf place))
    (others : List Path) :
    firstWithFile surroundings fileOf (places ++ others) =
      firstWithFile surroundings fileOf others := by
  induction places with
  | nil => rfl
  | cons place places ih =>
      rw [List.forall_mem_cons] at h
      rw [List.cons_append, firstWithFile, contentAt_of_isAbsent h.1]
      exact ih h.2

theorem firstWithFile_of_isAbsent (h : ∀ place ∈ places, surroundings.IsAbsent (fileOf place)) :
    firstWithFile surroundings fileOf places = .ok none := by
  rw [← List.append_nil places, firstWithFile_append h]
  rfl

theorem firstWithFile_of_isFirstFile (h : surroundings.IsFirstFile fileOf places path content) :
    firstWithFile surroundings fileOf places = .ok (some (path, content)) := by
  obtain ⟨before, after, rfl, hbefore, hcontent⟩ := h
  rw [firstWithFile_append hbefore, firstWithFile, contentAt_of_hasContent hcontent]
  rfl

theorem firstWithFile_of_isBlocked (h : surroundings.IsBlocked fileOf places) :
    firstWithFile surroundings fileOf places = .error .unreachable := by
  obtain ⟨before, path, after, rfl, hbefore, hunreachable⟩ := h
  rw [firstWithFile_append hbefore, firstWithFile, contentAt_of_isUnreachable hunreachable]
  rfl

/-- Among places there is a first file, or none of them has one, or the first that could have one
cannot be reached. -/
theorem isFirstFile_or_isAbsent_or_isBlocked (surroundings : Surroundings) (fileOf : Path → Path)
    (places : List Path) :
    (∃ path content, surroundings.IsFirstFile fileOf places path content) ∨
      (∀ place ∈ places, surroundings.IsAbsent (fileOf place)) ∨
      surroundings.IsBlocked fileOf places := by
  induction places with
  | nil => exact .inr (.inl (List.forall_mem_nil _))
  | cons place places ih =>
      rcases Surroundings.exists_hasContent_or_isAbsent_or_isUnreachable surroundings
        (fileOf place) with ⟨content, hcontent⟩ | habsent | hunreachable
      · exact .inl ⟨place, content, [], places, rfl, List.forall_mem_nil _, hcontent⟩
      · rcases ih with ⟨path, content, before, after, rfl, hbefore, hcontent⟩ | hrest |
          ⟨before, path, after, rfl, hbefore, hunreachable⟩
        · exact .inl ⟨path, content, place :: before, after, rfl,
            List.forall_mem_cons.mpr ⟨habsent, hbefore⟩, hcontent⟩
        · exact .inr (.inl (List.forall_mem_cons.mpr ⟨habsent, hrest⟩))
        · exact .inr (.inr ⟨place :: before, path, after, rfl,
            List.forall_mem_cons.mpr ⟨habsent, hbefore⟩, hunreachable⟩)
      · exact .inr (.inr ⟨[], place, places, rfl, List.forall_mem_nil _, hunreachable⟩)

/-! ## The project -/

theorem isProjectRoot_iff {root : Path} :
    IsProjectRoot surroundings root ↔ ∃ content,
      surroundings.IsFirstFile projectFileIn surroundings.program.parents root content := by
  constructor
  · rintro ⟨habove, ⟨content, hcontent⟩, hnearest⟩
    obtain ⟨before, after, hparents, hbefore⟩ :=
      Path.exists_parents_eq_append_iff.mpr ⟨habove, hnearest⟩
    exact ⟨content, before, after, hparents, hbefore, hcontent⟩
  · rintro ⟨content, before, after, hparents, hbefore, hcontent⟩
    obtain ⟨habove, hnearest⟩ :=
      Path.exists_parents_eq_append_iff.mp ⟨before, after, hparents, hbefore⟩
    exact ⟨habove, ⟨content, hcontent⟩, hnearest⟩

theorem projectPlaces_of_areInProject (h : AreInProject surroundings places) :
    projectPlaces surroundings = .ok places := by
  unfold projectPlaces
  cases h with
  | outside h =>
      rw [firstWithFile_of_isAbsent fun place hplace => h place (Path.mem_parents_iff.mp hplace)]
      rfl
  | inside h =>
      obtain ⟨content, hfirst⟩ := isProjectRoot_iff.mp h
      rw [firstWithFile_of_isFirstFile hfirst]
      rfl

theorem projectPlaces_of_isBlocked
    (h : surroundings.IsBlocked projectFileIn surroundings.program.parents) :
    projectPlaces surroundings = .error .unreachable := by
  unfold projectPlaces
  rw [firstWithFile_of_isBlocked h]
  rfl

theorem areInProject_or_isBlocked (surroundings : Surroundings) :
    (∃ places, AreInProject surroundings places) ∨
      surroundings.IsBlocked projectFileIn surroundings.program.parents := by
  rcases isFirstFile_or_isAbsent_or_isBlocked surroundings projectFileIn
    surroundings.program.parents with ⟨root, content, hfirst⟩ | habsent | hblocked
  · exact .inl ⟨_, .inside (isProjectRoot_iff.mpr ⟨content, hfirst⟩)⟩
  · exact .inl ⟨_, .outside fun directory hdirectory =>
      habsent directory (Path.mem_parents_iff.mpr hdirectory)⟩
  · exact .inr hblocked

/-! ## The search -/

theorem areFront_or_isHomeless (surroundings : Surroundings) :
    (∃ front, AreFront surroundings front) ∨ IsHomeless surroundings := by
  cases hnamed : namedPlaces surroundings with
  | ok named => exact .inl ⟨_, named, namedPlaces_eq_ok_iff.mp hnamed, rfl⟩
  | error error => exact .inr (namedPlaces_eq_error_iff.mp hnamed).2

/-- Once the first places are known, the search goes through them. -/
theorem search_of_areFront {front : List Path} (h : AreFront surroundings front) :
    search surroundings = (do
      match ← firstWithFile surroundings id front with
      | some file => return some file
      | none => firstWithFile surroundings id (← projectPlaces surroundings)) := by
  obtain ⟨named, hnamed, rfl⟩ := h
  unfold search
  rw [namedPlaces_eq_ok_iff.mpr hnamed]
  rfl

/-- If there is no file at the first places, it is looked for in the project. -/
theorem search_of_isAbsent {front : List Path} (h : AreFront surroundings front)
    (habsent : ∀ place ∈ front, surroundings.IsAbsent place) :
    search surroundings =
      projectPlaces surroundings >>= firstWithFile surroundings id := by
  have hfound : firstWithFile surroundings id front = .ok none :=
    firstWithFile_of_isAbsent habsent
  rw [search_of_areFront h, hfound]
  rfl

theorem search_of_isSource {found : Option (Path × List UInt8)}
    (h : IsSource surroundings none found) : search surroundings = .ok found := by
  cases h with
  | found hfront h =>
      rw [search_of_areFront hfront, firstWithFile_of_isFirstFile h]
      rfl
  | project hfront habsent hroot h =>
      rw [search_of_isAbsent hfront habsent, projectPlaces_of_areInProject (.inside hroot)]
      exact firstWithFile_of_isFirstFile ⟨[], [], rfl, List.forall_mem_nil _, h⟩
  | none hfront habsent hproject h =>
      rw [search_of_isAbsent hfront habsent, projectPlaces_of_areInProject hproject]
      exact firstWithFile_of_isAbsent h

theorem search_of_isStuck (h : IsStuck surroundings) :
    search surroundings = .error .unreachable := by
  cases h with
  | front hfront h =>
      rw [search_of_areFront hfront, firstWithFile_of_isBlocked h]
      rfl
  | project hfront habsent h =>
      rw [search_of_isAbsent hfront habsent, projectPlaces_of_isBlocked h]
      rfl
  | file hfront habsent hroot h =>
      rw [search_of_isAbsent hfront habsent, projectPlaces_of_areInProject (.inside hroot)]
      exact firstWithFile_of_isBlocked ⟨[], _, [], rfl, List.forall_mem_nil _, h⟩

theorem search_of_isHomeless (h : IsHomeless surroundings) :
    search surroundings = .error .home := by
  unfold search
  rw [namedPlaces_eq_error_iff.mpr ⟨rfl, h⟩]
  rfl

/-- Without a given file there is a source, unless a home directory is not known or the search
ends at a path that cannot be reached. -/
theorem isSource_or_isHomeless_or_isStuck (surroundings : Surroundings) :
    (∃ found, IsSource surroundings none found) ∨ IsHomeless surroundings ∨
      IsStuck surroundings := by
  -- the project is only looked at if all places in front of it are without a file
  rcases areFront_or_isHomeless surroundings with ⟨front, hfront⟩ | hhomeless
  · rcases isFirstFile_or_isAbsent_or_isBlocked surroundings id front with
      ⟨path, content, hfirst⟩ | habsent | hblocked
    · exact .inl ⟨_, .found hfront hfirst⟩
    · rcases areInProject_or_isBlocked surroundings with ⟨project, hproject⟩ | hblocked
      · cases hproject with
        | outside h =>
            exact .inl ⟨_, .none hfront habsent (.outside h) (List.forall_mem_nil _)⟩
        | inside hroot =>
            rcases Surroundings.exists_hasContent_or_isAbsent_or_isUnreachable surroundings
              (fileIn _) with ⟨content, hcontent⟩ | hnone | hunreachable
            · exact .inl ⟨_, .project hfront habsent hroot hcontent⟩
            · exact .inl ⟨_, .none hfront habsent (.inside hroot)
                (List.forall_mem_singleton.mpr hnone)⟩
            · exact .inr (.inr (.file hfront habsent hroot hunreachable))
      · exact .inr (.inr (.project hfront habsent hblocked))
    · exact .inr (.inr (.front hfront hblocked))
  · exact .inr (.inl hhomeless)

/-! ## Locating -/

variable {given : Option Path} {strict : Bool}

theorem locate_of_isSource {file : Path × List UInt8}
    (h : IsSource surroundings given (some file)) (strict : Bool) :
    locate surroundings given strict = .ok (some file) := by
  cases given with
  | some path =>
      cases h with
      | given h =>
          unfold locate
          dsimp only
          rw [contentAt_of_hasContent h]
          rfl
  | none =>
      unfold locate
      dsimp only
      rw [search_of_isSource h]
      rfl

theorem locate_of_none (h : IsSource surroundings none none) (strict : Bool) :
    locate surroundings none strict = if strict then .error .notFound else .ok none := by
  unfold locate
  dsimp only
  rw [search_of_isSource h]
  rfl

theorem locate_of_isAbsent (h : surroundings.IsAbsent path) (strict : Bool) :
    locate surroundings (some path) strict = .error (.missing path.toText) := by
  unfold locate
  dsimp only
  rw [contentAt_of_isAbsent h]
  rfl

theorem locate_of_isUnreachable (h : surroundings.IsUnreachable path) (strict : Bool) :
    locate surroundings (some path) strict = .error .unreachable := by
  unfold locate
  dsimp only
  rw [contentAt_of_isUnreachable h]
  rfl

theorem locate_of_search_error {error : Error} (h : search surroundings = .error error)
    (strict : Bool) : locate surroundings none strict = .error error := by
  unfold locate
  dsimp only
  rw [h]
  rfl

/-! ## Candidates -/

theorem AreFront.unique {first second : List Path} (h : AreFront surroundings first)
    (h' : AreFront surroundings second) : first = second := by
  obtain ⟨named, hnamed, rfl⟩ := h
  obtain ⟨other, hother, rfl⟩ := h'
  rw [← namedPlaces_eq_ok_iff] at hnamed hother
  rw [Except.ok.inj (hnamed.symm.trans hother)]

theorem AreInProject.unique {first second : List Path} (h : AreInProject surroundings first)
    (h' : AreInProject surroundings second) : first = second :=
  Except.ok.inj ((projectPlaces_of_areInProject h).symm.trans (projectPlaces_of_areInProject h'))

/-- If everything can be reached, there is no source exactly if no candidate is a file. -/
theorem isSource_none_iff (hhome : ¬ IsHomeless surroundings)
    (hreachable : AreReachable surroundings) :
    IsSource surroundings none none ↔
      ∀ path, IsCandidate surroundings path → ¬ surroundings.IsFile path := by
  constructor
  · intro h path hcandidate
    cases h with
    | none hfront habsent hproject h =>
        obtain ⟨places, hplaces | hplaces, hmem⟩ := hcandidate
        · rw [hplaces.unique hfront] at hmem
          exact (habsent path hmem).not_isFile
        · rw [hplaces.unique hproject] at hmem
          exact (h path hmem).not_isFile
  · intro h
    have habsent : ∀ path, IsCandidate surroundings path → surroundings.IsAbsent path :=
      fun path hcandidate => Surroundings.isAbsent_of_not_isFile
        (hreachable.candidate path hcandidate) (h path hcandidate)
    obtain ⟨front, hfront⟩ := (areFront_or_isHomeless surroundings).resolve_right hhome
    -- a stage that stops does so at a path that cannot be reached
    have hopen : ¬ surroundings.IsBlocked projectFileIn surroundings.program.parents := by
      rintro ⟨before, directory, after, hparents, -, hunreachable⟩
      refine hreachable.project directory (Path.mem_parents_iff.mp ?_) hunreachable
      rw [hparents]
      exact List.mem_append_right _ List.mem_cons_self
    obtain ⟨project, hproject⟩ := (areInProject_or_isBlocked surroundings).resolve_right hopen
    exact .none hfront (fun place hplace => habsent place ⟨front, .inl hfront, hplace⟩) hproject
      fun place hplace => habsent place ⟨project, .inr hproject, hplace⟩

end QueryBridge.Settings
