import QueryBridge.Files.Tree
import QueryBridge.Proofs.Lists

/-!
# Directories above a path

The directories that a path lies in are the beginnings of its names.  Longer beginnings are nearer
to the path.
-/

namespace QueryBridge

namespace Path

/-- The path lies in the directory or further below it. -/
def IsAbove (directory path : Path) : Prop :=
  directory.anchor = path.anchor ∧ ∃ rest, rest ≠ [] ∧ path.names = directory.names ++ rest

variable {directory path : Path}

theorem mem_parents_iff : directory ∈ path.parents ↔ directory.IsAbove path := by
  unfold parents IsAbove
  simp only [List.mem_map, List.mem_reverse, List.mem_range]
  constructor
  · rintro ⟨count, hcount, rfl⟩
    refine ⟨rfl, path.names.drop count, ?_, (List.take_append_drop count path.names).symm⟩
    simpa using hcount
  · rintro ⟨hanchor, rest, hrest, hnames⟩
    refine ⟨directory.names.length, ?_, ?_⟩
    · have hlength := List.length_pos_iff.mpr hrest
      rw [hnames, List.length_append]
      omega
    · rw [hnames, List.take_left, ← hanchor]

/-- Nearer directories come first. -/
theorem pairwise_parents (path : Path) :
    path.parents.Pairwise fun first second => second.names.length < first.names.length := by
  unfold parents
  rw [List.pairwise_map, List.pairwise_reverse]
  refine (List.pairwise_lt_range).imp_of_mem ?_
  intro first second hfirst hsecond hlt
  rw [List.mem_range] at hfirst hsecond
  rw [List.length_take_of_le (Nat.le_of_lt hfirst), List.length_take_of_le (Nat.le_of_lt hsecond)]
  exact hlt

/-- The directories in front of one of them are those that are nearer. -/
theorem exists_parents_eq_append_iff {P : Path → Prop} :
    (∃ before after, path.parents = before ++ directory :: after ∧
        ∀ other ∈ before, P other) ↔
      directory.IsAbove path ∧ ∀ other : Path, other.IsAbove path →
        directory.names.length < other.names.length → P other := by
  simp only [exists_eq_append_cons_iff_of_pairwise path.pairwise_parents, mem_parents_iff]

end Path

namespace Surroundings

/-- The file at the path has the content. -/
def HasContent (surroundings : Surroundings) (path : Path) (content : List UInt8) : Prop :=
  surroundings.isOverlong path = false ∧ surroundings.content? path = some content

def IsFile (surroundings : Surroundings) (path : Path) : Prop :=
  ∃ content, surroundings.HasContent path content

/-- There is no file at the path. -/
def IsAbsent (surroundings : Surroundings) (path : Path) : Prop :=
  surroundings.isOverlong path = false ∧ surroundings.content? path = none

/-- It cannot be told whether there is a file at the path. -/
def IsUnreachable (surroundings : Surroundings) (path : Path) : Prop :=
  surroundings.isOverlong path = true

/-- The path is the first of several for which there is a file, which has the content. -/
def IsFirstFile (surroundings : Surroundings) (fileOf : Path → Path) (places : List Path)
    (path : Path) (content : List UInt8) : Prop :=
  ∃ before after, places = before ++ path :: after ∧
    (∀ other ∈ before, surroundings.IsAbsent (fileOf other)) ∧
    surroundings.HasContent (fileOf path) content

/-- In front of all files one cannot be reached. -/
def IsBlocked (surroundings : Surroundings) (fileOf : Path → Path) (places : List Path) : Prop :=
  ∃ before path after, places = before ++ path :: after ∧
    (∀ other ∈ before, surroundings.IsAbsent (fileOf other)) ∧
    surroundings.IsUnreachable (fileOf path)

/-- The variable has a value that is not empty. -/
def IsSet (surroundings : Surroundings) (name text : String) : Prop :=
  surroundings.valueOf? name = some text ∧ text ≠ ""

variable {surroundings : Surroundings} {path : Path}

theorem IsAbsent.not_isFile (h : surroundings.IsAbsent path) : ¬ surroundings.IsFile path := by
  rintro ⟨content, -, hcontent⟩
  cases h.2.symm.trans hcontent

/-- There is a file at a path, or none, or this cannot be told. -/
theorem exists_hasContent_or_isAbsent_or_isUnreachable (surroundings : Surroundings)
    (path : Path) :
    (∃ content, surroundings.HasContent path content) ∨ surroundings.IsAbsent path ∨
      surroundings.IsUnreachable path := by
  cases hlong : surroundings.isOverlong path with
  | true => exact .inr (.inr hlong)
  | false =>
      cases hcontent : surroundings.content? path with
      | none => exact .inr (.inl ⟨hlong, hcontent⟩)
      | some content => exact .inl ⟨content, hlong, hcontent⟩

theorem isAbsent_of_not_isFile (hreachable : ¬ surroundings.IsUnreachable path)
    (h : ¬ surroundings.IsFile path) : surroundings.IsAbsent path := by
  rcases exists_hasContent_or_isAbsent_or_isUnreachable surroundings path with
    hfile | habsent | hunreachable
  · exact absurd hfile h
  · exact habsent
  · exact absurd hunreachable hreachable

/-- Without entries there are no files. -/
theorem content?_of_entries_eq_nil (h : surroundings.files.entries = []) (path : Path) :
    surroundings.content? path = none := by
  have hentry : ∀ location content,
      surroundings.files.entry? location ≠ some (.file content) := by
    intro location content
    unfold FileTree.entry?
    rw [h, List.lookup_nil]
    split
    · next hnone => cases hnone
    · split <;> nofun
  unfold content? FileTree.content?
  split
  · next found hfound =>
      unfold FileTree.find? at hfound
      split at hfound
      · cases hfound
      · obtain ⟨location, -, hlocation⟩ := Option.bind_eq_some_iff.mp hfound
        exact absurd hlocation (hentry location _)
  · rfl
  · rfl

theorem filled?_eq_some_iff {name text : String} :
    surroundings.filled? name = some text ↔ surroundings.IsSet name text := by
  unfold filled? IsSet
  rw [Option.filter_eq_some_iff]
  simp

theorem filled?_eq_none_iff {name : String} :
    surroundings.filled? name = none ↔ ∀ text, ¬ surroundings.IsSet name text := by
  simp only [Option.eq_none_iff_forall_ne_some, ne_eq, filled?_eq_some_iff]

end Surroundings

end QueryBridge
