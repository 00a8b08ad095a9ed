import QueryBridge.Files.Tree
import QueryBridge.Proofs.Text.Split

/-!
# The text of a path

A path is written without the empty names and the single dots of the text that it is read from.
What is written leads to the same file, because such names stay where they are.
-/

namespace QueryBridge

/-- The name stays in the directory where it is met. -/
def IsStay (name : String) : Prop :=
  name = "" ∨ name = "."

theorem counts_iff {name : String} : (name != "" && name != ".") = true ↔ ¬ IsStay name := by
  simp [IsStay]

namespace Path

/-! ## Names -/

variable {text : String} {name : String} {names : List String}

theorem rawNames_ne_nil (text : String) : rawNames text ≠ [] := by
  unfold rawNames
  rw [ne_eq, List.map_eq_nil_iff]
  exact Text.splitOn_ne_nil '/' text.toList

theorem toText_ne_empty (path : Path) : path.toText ≠ "" := by
  unfold toText
  dsimp only
  split
  · decide
  · assumption

theorem rawNames_slash_append (text : String) : rawNames ("/" ++ text) = "" :: rawNames text := by
  unfold rawNames
  rw [String.toList_append, show "/".toList = ['/'] from rfl, List.singleton_append,
    Text.splitOn, if_pos rfl, List.map_cons]

theorem not_mem_of_mem_rawNames (h : name ∈ rawNames text) : '/' ∉ name.toList := by
  obtain ⟨part, hpart, rfl⟩ := List.mem_map.mp h
  rw [String.toList_ofList]
  exact Text.not_mem_of_mem_splitOn hpart

theorem rawNames_intercalate (hnames : names ≠ []) (h : ∀ name ∈ names, '/' ∉ name.toList) :
    rawNames ("/".intercalate names) = names := by
  unfold rawNames
  rw [String.toList_intercalate]
  have hsplit : Text.splitOn '/' (['/'].intercalate (names.map String.toList)) =
      names.map String.toList :=
    Text.splitOn_intercalate (by simpa using hnames) (by simpa using h)
  rw [show "/".toList = ['/'] from rfl, hsplit, List.map_map]
  simp

theorem mem_names_ofText_iff :
    name ∈ (ofText text).names ↔ name ∈ rawNames text ∧ ¬ IsStay name := by
  unfold ofText
  rw [List.mem_filter, counts_iff]

theorem anchor_ofText_cases (text : String) :
    (ofText text).anchor = "" ∨ (ofText text).anchor = "/" ∨ (ofText text).anchor = "//" := by
  unfold ofText anchorOf
  dsimp only
  split <;> simp

theorem rawNames_intercalate_names (h : (ofText text).names ≠ []) :
    rawNames ("/".intercalate (ofText text).names) = (ofText text).names :=
  rawNames_intercalate h fun _ hname =>
    not_mem_of_mem_rawNames (mem_names_ofText_iff.mp hname).1

/-- The text of a relative path has the names of the path, or a single dot. -/
theorem rawNames_toText_of_relative (h : (ofText text).anchor = "") :
    rawNames (ofText text).toText =
      if (ofText text).names = [] then ["."] else (ofText text).names := by
  unfold toText
  rw [h, String.empty_append]
  split
  · next hempty =>
      rw [hempty]
      rfl
  · next hnames =>
      have hraw := rawNames_intercalate_names hnames
      have hne : "/".intercalate (ofText text).names ≠ "" := by
        intro heq
        rw [heq] at hraw
        have hmem : "" ∈ (ofText text).names := hraw ▸ List.mem_cons_self
        exact (mem_names_ofText_iff.mp hmem).2 (.inl rfl)
      rw [if_neg hne, hraw]

/-- The text of an absolute path has a slash or two in front of the names of the path. -/
theorem toText_of_absolute (h : (ofText text).anchor ≠ "") :
    ∃ rest, (ofText text).toText = "/" ++ rest ∧
      ∃ stays, rawNames (ofText text).toText = stays ++ (ofText text).names ∧
        ∀ name ∈ stays, IsStay name := by
  have hnames : ∃ stays, rawNames ("/".intercalate (ofText text).names) =
      stays ++ (ofText text).names ∧ ∀ name ∈ stays, IsStay name := by
    by_cases hempty : (ofText text).names = []
    · rw [hempty]
      exact ⟨[""], rfl, by simp [IsStay]⟩
    · exact ⟨[], rawNames_intercalate_names hempty, nofun⟩
  obtain ⟨stays, hraw, hstays⟩ := hnames
  rcases anchor_ofText_cases text with hanchor | hanchor | hanchor
  · exact absurd hanchor h
  · have htext : (ofText text).toText = "/" ++ "/".intercalate (ofText text).names := by
      unfold toText
      rw [hanchor, if_neg (by simp)]
    refine ⟨_, htext, "" :: stays, ?_, List.forall_mem_cons.mpr ⟨.inl rfl, hstays⟩⟩
    rw [htext, rawNames_slash_append, hraw, List.cons_append]
  · have htext : (ofText text).toText = "/" ++ ("/" ++ "/".intercalate (ofText text).names) := by
      unfold toText
      rw [hanchor, if_neg (by simp), ← String.append_assoc]
      rfl
    refine ⟨_, htext, "" :: "" :: stays, ?_,
      List.forall_mem_cons.mpr ⟨.inl rfl, List.forall_mem_cons.mpr ⟨.inl rfl, hstays⟩⟩⟩
    rw [htext, rawNames_slash_append, rawNames_slash_append, hraw, List.cons_append,
      List.cons_append]

theorem anchor_ofText_ne_iff : (ofText text).anchor ≠ "" ↔ ∃ rest, text = "/" ++ rest := by
  have hlist : anchorOf text.toList ≠ "" ↔ ∃ rest, text.toList = '/' :: rest := by
    unfold anchorOf
    split <;> simp_all
  refine hlist.trans ⟨?_, ?_⟩
  · rintro ⟨rest, hrest⟩
    exact ⟨String.ofList rest, String.toList_inj.mp (by simp [hrest])⟩
  · rintro ⟨rest, rfl⟩
    exact ⟨rest.toList, by simp⟩

/-- What is written of a relative path is relative, and the same of an absolute one. -/
theorem isAbsolute_ofText_toText (text : String) :
    (ofText (ofText text).toText).isAbsolute = (ofText text).isAbsolute := by
  have hiff : (ofText (ofText text).toText).anchor ≠ "" ↔ (ofText text).anchor ≠ "" := by
    constructor
    · intro h hanchor
      obtain ⟨rest, hrest⟩ := anchor_ofText_ne_iff.mp h
      have hraw := rawNames_toText_of_relative hanchor
      rw [hrest, rawNames_slash_append] at hraw
      split at hraw
      · exact absurd (List.cons.inj hraw).1 (by decide)
      · have hmem : "" ∈ (ofText text).names := hraw ▸ List.mem_cons_self
        exact (mem_names_ofText_iff.mp hmem).2 (.inl rfl)
    · intro h
      obtain ⟨rest, hrest, -⟩ := toText_of_absolute h
      exact anchor_ofText_ne_iff.mpr ⟨rest, hrest⟩
  unfold isAbsolute
  rw [Bool.eq_iff_iff, bne_iff_ne, bne_iff_ne, hiff]

/-- What is written of a path has the names of the path, apart from names that stay in place. -/
theorem exists_rawNames_toText (text : String) :
    ∃ stays, rawNames (ofText text).toText = stays ++ (ofText text).names ∧
      ∀ name ∈ stays, IsStay name := by
  by_cases h : (ofText text).anchor = ""
  · rw [rawNames_toText_of_relative h]
    split
    · next hempty => exact ⟨["."], by rw [hempty]; rfl, by simp [IsStay]⟩
    · exact ⟨[], rfl, nofun⟩
  · obtain ⟨-, -, hraw⟩ := toText_of_absolute h
    exact hraw

end Path

namespace FileTree

variable {tree : FileTree} {location place : List String} {name : String} {names : List String}

theorem entry?_of_walk_cons (h : tree.walk location (name :: names) = some place) :
    tree.entry? location = some .directory := by
  unfold walk at h
  split at h
  · assumption
  · cases h
  · cases h

theorem walk_cons_of_isStay (hlocation : tree.entry? location = some .directory)
    (h : IsStay name) : tree.walk location (name :: names) = tree.walk location names := by
  rw [walk, hlocation]
  dsimp only
  rw [if_pos]
  simpa [IsStay] using h

theorem walk_append_of_isStay (hlocation : tree.entry? location = some .directory)
    {stays : List String} (h : ∀ name ∈ stays, IsStay name) :
    tree.walk location (stays ++ names) = tree.walk location names := by
  induction stays with
  | nil => rfl
  | cons name stays ih =>
      rw [List.forall_mem_cons] at h
      rw [List.cons_append, walk_cons_of_isStay hlocation h.1, ih h.2]

/-- Names that stay in place can be left out. -/
theorem walk_filter (h : tree.walk location names = some place) :
    tree.walk location (names.filter fun name => name != "" && name != ".") = some place := by
  induction names generalizing location with
  | nil => exact h
  | cons name names ih =>
      have hlocation := entry?_of_walk_cons h
      by_cases hstay : IsStay name
      · rw [walk_cons_of_isStay hlocation hstay] at h
        rw [List.filter_cons, if_neg (fun hcounts => counts_iff.mp hcounts hstay), ih h]
      · rw [List.filter_cons, if_pos (counts_iff.mpr hstay)]
        unfold walk at h ⊢
        rw [hlocation] at h ⊢
        have hstep : ¬ (name = "" || name = ".") = true := by simpa [IsStay] using hstay
        dsimp only at h ⊢
        rw [if_neg hstep] at h ⊢
        by_cases hup : name = ".."
        · rw [if_pos hup] at h ⊢
          exact ih h
        · rw [if_neg hup] at h ⊢
          exact ih h

/-- What is written of a path leads to the file that the path is read for. -/
theorem find?_ofText_toText {directory : Path} {text : String} {entry : FileEntry}
    (h : tree.find? directory text = some entry) :
    tree.find? directory (Path.ofText text).toText = some entry := by
  have hstart : start directory (Path.ofText text).toText = start directory text := by
    unfold start
    rw [Path.isAbsolute_ofText_toText]
  unfold find? at h ⊢
  split at h
  · cases h
  · obtain ⟨place, hwalk, hentry⟩ := Option.bind_eq_some_iff.mp h
    obtain ⟨stays, hraw, hstays⟩ := Path.exists_rawNames_toText text
    obtain ⟨first, rest, hfirst⟩ := List.exists_cons_of_ne_nil (Path.rawNames_ne_nil text)
    have hlocation : tree.entry? (start directory text) = some .directory := by
      rw [hfirst] at hwalk
      exact entry?_of_walk_cons hwalk
    rw [if_neg (Path.toText_ne_empty _), hstart, hraw, walk_append_of_isStay hlocation hstays]
    exact Option.bind_eq_some_iff.mpr ⟨place, walk_filter hwalk, hentry⟩

end FileTree

theorem Surroundings.content?_ofText {surroundings : Surroundings} {text : String}
    {content : List UInt8} (h : surroundings.find? text = some (.file content)) :
    surroundings.content? (Path.ofText text) = some content := by
  unfold content? FileTree.content?
  rw [FileTree.find?_ofText_toText h]

end QueryBridge
