import Mathlib.Data.List.Basic
import Mathlib.Data.List.Induction
import QueryBridge.Fields

/-!
# Giving values to fields

A value that has been given is found, other names keep theirs, and nothing else appears.
-/

namespace QueryBridge.Fields

variable {κ α : Type} [DecidableEq κ] {name other : κ} {value : α} {fields : FieldsOf κ α}
  {field : κ × α}

theorem insert_cons_self (name : κ) (value old : α) (fields : FieldsOf κ α) :
    insert name value ((name, old) :: fields) = (name, value) :: fields := by
  rw [insert, if_pos rfl]

theorem insert_cons_of_ne (h : other ≠ name) (value old : α) (fields : FieldsOf κ α) :
    insert name value ((other, old) :: fields) = (other, old) :: insert name value fields := by
  rw [insert, if_neg h]

@[simp] theorem get?_insert_self (name : κ) (value : α) (fields : FieldsOf κ α) :
    get? (insert name value fields) name = some value := by
  induction fields with
  | nil => simp [insert, get?]
  | cons field fields ih =>
      obtain ⟨first, old⟩ := field
      by_cases hfirst : first = name
      · subst hfirst
        rw [insert_cons_self, get?, List.lookup_cons_self]
      · have hname : (name == first) = false := beq_eq_false_iff_ne.mpr (Ne.symm hfirst)
        rw [insert_cons_of_ne hfirst, get?, List.lookup_cons, hname]
        exact ih

theorem get?_insert_of_ne (h : other ≠ name) (value : α) (fields : FieldsOf κ α) :
    get? (insert name value fields) other = get? fields other := by
  have hhead : (other == name) = false := beq_eq_false_iff_ne.mpr h
  induction fields with
  | nil => simp [insert, get?, List.lookup_cons, hhead]
  | cons field fields ih =>
      obtain ⟨first, old⟩ := field
      unfold get? at ih ⊢
      by_cases hfirst : first = name
      · subst hfirst
        rw [insert_cons_self, List.lookup_cons, List.lookup_cons, hhead]
      · rw [insert_cons_of_ne hfirst, List.lookup_cons, List.lookup_cons, ih]

theorem mem_of_get? (h : get? fields name = some value) : (name, value) ∈ fields := by
  obtain ⟨before, after, rfl, -⟩ := List.lookup_eq_some_iff.mp h
  exact List.mem_append_right _ List.mem_cons_self

theorem mem_of_mem_insert (h : field ∈ insert name value fields) :
    field = (name, value) ∨ field ∈ fields := by
  induction fields with
  | nil => exact Or.inl (List.mem_singleton.mp h)
  | cons first fields ih =>
      unfold insert at h
      split at h
      · exact (List.mem_cons.mp h).imp_right (List.mem_cons_of_mem _)
      · rcases List.mem_cons.mp h with rfl | h
        · exact Or.inr List.mem_cons_self
        · exact (ih h).imp_right (List.mem_cons_of_mem _)

theorem mem_insert_self (name : κ) (value : α) (fields : FieldsOf κ α) :
    (name, value) ∈ insert name value fields := by
  induction fields with
  | nil => exact List.mem_singleton_self _
  | cons field fields ih =>
      unfold insert
      split
      · exact List.mem_cons_self
      · exact List.mem_cons_of_mem _ ih

/-- A new name comes at the end. -/
theorem insert_of_not_mem (h : name ∉ names fields) (value : α) :
    insert name value fields = fields ++ [(name, value)] := by
  induction fields with
  | nil => rfl
  | cons field fields ih =>
      obtain ⟨first, old⟩ := field
      obtain ⟨hfirst, hfields⟩ := not_or.mp (mt List.mem_cons.mpr h)
      rw [insert_cons_of_ne (Ne.symm hfirst), ih hfields, List.cons_append]

/-- A name that is there keeps its place. -/
theorem names_insert_of_mem (h : name ∈ names fields) (value : α) :
    names (insert name value fields) = names fields := by
  induction fields with
  | nil => cases h
  | cons field fields ih =>
      obtain ⟨first, old⟩ := field
      by_cases hfirst : first = name
      · subst hfirst
        rw [insert_cons_self]
        rfl
      · have hfields : name ∈ names fields := (List.mem_cons.mp h).resolve_left (Ne.symm hfirst)
        rw [insert_cons_of_ne hfirst]
        exact congrArg (first :: ·) (ih hfields)

theorem nodup_names_insert (h : (names fields).Nodup) (name : κ) (value : α) :
    (names (insert name value fields)).Nodup := by
  by_cases hname : name ∈ names fields
  · rw [names_insert_of_mem hname]
    exact h
  · have hnames : names (insert name value fields) = names fields ++ [name] := by
      rw [insert_of_not_mem hname, names, List.map_append]
      rfl
    rw [hnames]
    refine List.nodup_append.mpr ⟨h, List.pairwise_singleton _ name, ?_⟩
    intro first hfirst second hsecond heq
    rw [List.mem_singleton.mp hsecond] at heq
    exact hname (heq ▸ hfirst)

/-! ## Finding fields -/

theorem get?_eq_none_iff : get? fields name = none ↔ name ∉ names fields := by
  rw [get?, List.lookup_eq_none_iff, names, List.mem_map]
  constructor
  · rintro h ⟨field, hfield, rfl⟩
    simpa using h field hfield
  · intro h field hfield
    exact bne_iff_ne.mpr fun heq => h ⟨field, hfield, heq.symm⟩

/-- In fields whose names differ, every field is found under its name. -/
theorem get?_of_mem (hnames : (names fields).Nodup) (h : (name, value) ∈ fields) :
    get? fields name = some value := by
  induction fields with
  | nil => cases h
  | cons field fields ih =>
      obtain ⟨first, old⟩ := field
      obtain ⟨hfirst, hfields⟩ := List.nodup_cons.mp hnames
      rcases List.mem_cons.mp h with heq | hmem
      · cases heq
        exact List.lookup_cons_self
      · have hne : (name == first) = false := by
          refine beq_eq_false_iff_ne.mpr ?_
          rintro rfl
          exact hfirst (List.mem_map.mpr ⟨_, hmem, rfl⟩)
        rw [get?, List.lookup_cons, hne]
        exact ih hfields hmem

theorem get?_eq_some_iff (hnames : (names fields).Nodup) :
    get? fields name = some value ↔ (name, value) ∈ fields :=
  ⟨mem_of_get?, get?_of_mem hnames⟩

/-- The order of fields whose names differ does not matter. -/
theorem get?_eq_of_perm {others : FieldsOf κ α} (h : fields.Perm others)
    (hnames : (names fields).Nodup) (name : κ) : get? fields name = get? others name := by
  have hothers : (names others).Nodup := (h.map Prod.fst).nodup_iff.mp hnames
  refine Option.ext fun value => ?_
  rw [get?_eq_some_iff hnames, get?_eq_some_iff hothers, h.mem_iff]

theorem get?_mapValues {β : Type} (f : α → β) (fields : FieldsOf κ α) (name : κ) :
    get? (mapValues f fields) name = (get? fields name).map f := by
  induction fields with
  | nil => rfl
  | cons field fields ih =>
      obtain ⟨first, old⟩ := field
      unfold get? mapValues at ih ⊢
      rw [List.map_cons, List.lookup_cons, List.lookup_cons]
      cases name == first with
      | true => rfl
      | false => exact ih

omit [DecidableEq κ] in
theorem names_mapValues {β : Type} (f : α → β) (fields : FieldsOf κ α) :
    names (mapValues f fields) = names fields := by
  rw [names, mapValues, List.map_map]
  rfl

/-! ## Many values -/

theorem nodup_names_override (h : (names fields).Nodup) (others : FieldsOf κ α) :
    (names (override fields others)).Nodup := by
  induction others generalizing fields with
  | nil => exact h
  | cons other others ih => exact ih (nodup_names_insert h other.1 other.2)

theorem nodup_names_ofList (pairs : List (κ × α)) : (names (ofList pairs)).Nodup :=
  nodup_names_override (show (names ([] : FieldsOf κ α)).Nodup from List.nodup_nil) pairs

theorem mem_or_mem_of_mem_override {others : FieldsOf κ α} (h : field ∈ override fields others) :
    field ∈ fields ∨ field ∈ others := by
  induction others generalizing fields with
  | nil => exact Or.inl h
  | cons other others ih =>
      rcases ih h with h | h
      · rcases mem_of_mem_insert h with rfl | h
        · exact Or.inr List.mem_cons_self
        · exact Or.inl h
      · exact Or.inr (List.mem_cons_of_mem _ h)

theorem mem_of_mem_ofList {pairs : List (κ × α)} (h : field ∈ ofList pairs) :
    field ∈ pairs :=
  (mem_or_mem_of_mem_override h).resolve_left List.not_mem_nil

theorem ofList_concat (pairs : List (κ × α)) (pair : κ × α) :
    ofList (pairs ++ [pair]) = insert pair.1 pair.2 (ofList pairs) :=
  List.foldl_append

/-- Names stand in the order in which they first appeared. -/
theorem names_ofList (pairs : List (κ × α)) :
    names (ofList pairs) = (pairs.map Prod.fst).eraseDups := by
  induction pairs using List.reverseRecOn with
  | nil => rfl
  | append_singleton pairs pair ih =>
      have hmem : pair.1 ∈ names (ofList pairs) ↔ pair.1 ∈ pairs.map Prod.fst := by
        rw [ih, List.mem_eraseDups]
      rw [ofList_concat, List.map_append, List.eraseDups_append, ← ih, List.map_singleton]
      by_cases h : pair.1 ∈ names (ofList pairs)
      · rw [names_insert_of_mem h]
        simp [List.removeAll, hmem.mp h]
      · have hnew : pair.1 ∉ pairs.map Prod.fst := mt hmem.mpr h
        rw [insert_of_not_mem h, names, List.map_append]
        have hsingle : [pair.1].eraseDups = [pair.1] := rfl
        simp [List.removeAll, hnew, names, hsingle]

theorem ofList_eq_nil_iff {pairs : List (κ × α)} : ofList pairs = [] ↔ pairs = [] := by
  constructor
  · intro h
    refine List.eq_nil_iff_forall_not_mem.mpr fun pair hpair => ?_
    have hname : pair.1 ∈ names (ofList pairs) := by
      rw [names_ofList, List.mem_eraseDups]
      exact List.mem_map_of_mem hpair
    rw [h] at hname
    exact List.not_mem_nil hname
  · rintro rfl
    rfl

/-- The last value under a name. -/
def last? (pairs : List (κ × α)) (name : κ) : Option α :=
  pairs.reverse.lookup name

theorem last?_concat_self (pairs : List (κ × α)) (name : κ) (value : α) :
    last? (pairs ++ [(name, value)]) name = some value := by
  rw [last?, List.reverse_concat, List.lookup_cons_self]

theorem last?_concat_of_ne (h : name ≠ other) (pairs : List (κ × α)) (value : α) :
    last? (pairs ++ [(other, value)]) name = last? pairs name := by
  have hname : (name == other) = false := beq_eq_false_iff_ne.mpr h
  rw [last?, List.reverse_concat, List.lookup_cons, hname]
  rfl

theorem mem_of_last? {pairs : List (κ × α)} (h : last? pairs name = some value) :
    (name, value) ∈ pairs :=
  List.mem_reverse.mp (mem_of_get? h)

theorem isSome_last?_iff {pairs : List (κ × α)} :
    (last? pairs name).isSome = true ↔ name ∈ pairs.map Prod.fst := by
  have hnone : last? pairs name = none ↔ name ∉ names pairs.reverse := get?_eq_none_iff
  rw [← Option.ne_none_iff_isSome, ne_eq, hnone, not_not, names, List.map_reverse,
    List.mem_reverse]

/-- Of the values that are given to a name the last one counts. -/
theorem get?_ofList (pairs : List (κ × α)) (name : κ) :
    get? (ofList pairs) name = last? pairs name := by
  induction pairs using List.reverseRecOn with
  | nil => rfl
  | append_singleton pairs pair ih =>
      obtain ⟨other, value⟩ := pair
      rw [ofList_concat]
      by_cases h : name = other
      · subst h
        rw [get?_insert_self, last?_concat_self]
      · rw [get?_insert_of_ne h, last?_concat_of_ne h, ih]

/-- The values in order are those that are found under the names. -/
theorem map_snd_eq_filterMap_get? (h : (names fields).Nodup) :
    fields.map Prod.snd = (names fields).filterMap (get? fields) := by
  rw [names, List.filterMap_map]
  refine (List.filterMap_eq_map_iff_forall_eq_some.mpr fun field hfield => ?_).symm
  exact get?_of_mem h hfield

theorem ofList_of_nodup (h : (names fields).Nodup) : ofList fields = fields := by
  induction fields using List.reverseRecOn with
  | nil => rfl
  | append_singleton fields field ih =>
      rw [names, List.map_append, List.map_singleton] at h
      obtain ⟨hfields, -, hdisjoint⟩ := List.nodup_append.mp h
      have hnew : field.1 ∉ names fields := fun hmem =>
        hdisjoint field.1 hmem field.1 List.mem_cons_self rfl
      rw [ofList_concat, ih hfields, insert_of_not_mem hnew]

theorem ofList_mapValues {β : Type} (f : α → β) (h : (names fields).Nodup) :
    ofList (mapValues f fields) = mapValues f fields := by
  apply ofList_of_nodup
  rw [names_mapValues]
  exact h

/-- A name that is given values of its own, however often, has its value. -/
theorem get?_ofList_map (given : List κ) (f : κ → α) (h : name ∈ given) :
    get? (ofList (given.map fun name => (name, f name))) name = some (f name) := by
  induction given using List.reverseRecOn with
  | nil => cases h
  | append_singleton given last ih =>
      rw [List.map_append, List.map_singleton, ofList_concat]
      by_cases hlast : name = last
      · subst hlast
        exact get?_insert_self name _ _
      · have hgiven : name ∈ given := by
          rcases List.mem_append.mp h with h | h
          · exact h
          · exact absurd (List.mem_singleton.mp h) hlast
        rw [get?_insert_of_ne hlast]
        exact ih hgiven

/-! ## Some of the names -/

section Filter

variable (p : κ → Bool)

theorem filter_insert_of_pos (h : p name = true) (value : α) (fields : FieldsOf κ α) :
    (insert name value fields).filter (fun field => p field.1) =
      insert name value (fields.filter fun field => p field.1) := by
  induction fields with
  | nil => simp [insert, h]
  | cons field fields ih =>
      obtain ⟨first, old⟩ := field
      by_cases hfirst : first = name
      · subst hfirst
        simp only [insert_cons_self, List.filter_cons, h, if_true]
      · rw [insert_cons_of_ne hfirst, List.filter_cons, List.filter_cons, ih]
        split
        · rw [insert_cons_of_ne hfirst]
        · rfl

/-- A value for a name that is left out does not show. -/
theorem filter_insert_of_neg (h : p name = false) (value : α) (fields : FieldsOf κ α) :
    (insert name value fields).filter (fun field => p field.1) =
      fields.filter fun field => p field.1 := by
  induction fields with
  | nil => simp [insert, h]
  | cons field fields ih =>
      obtain ⟨first, old⟩ := field
      by_cases hfirst : first = name
      · subst hfirst
        simp only [insert_cons_self, List.filter_cons, h, Bool.false_eq_true, if_false]
      · rw [insert_cons_of_ne hfirst, List.filter_cons, List.filter_cons, ih]

theorem filter_override (fields others : FieldsOf κ α) :
    (override fields others).filter (fun field => p field.1) =
      override (fields.filter fun field => p field.1) (others.filter fun field => p field.1) := by
  induction others generalizing fields with
  | nil => rfl
  | cons other others ih =>
      have hstep : override fields (other :: others) =
          override (insert other.1 other.2 fields) others := rfl
      rw [hstep, ih]
      by_cases h : p other.1 = true
      · rw [filter_insert_of_pos p h, List.filter_cons, if_pos h]
        rfl
      · rw [filter_insert_of_neg p (eq_false_of_ne_true h), List.filter_cons, if_neg h]

end Filter

/-- In fields whose names differ, a name has one field. -/
theorem filter_eq_singleton (hnames : (names fields).Nodup) (h : (name, value) ∈ fields) :
    fields.filter (fun field => field.1 = name) = [(name, value)] := by
  induction fields with
  | nil => cases h
  | cons field fields ih =>
      obtain ⟨hfirst, hfields⟩ := List.nodup_cons.mp hnames
      rcases List.mem_cons.mp h with rfl | hmem
      · have hnone : fields.filter (fun field => field.1 = name) = [] := by
          rw [List.filter_eq_nil_iff]
          rintro other hother hname
          rw [decide_eq_true_eq] at hname
          exact hfirst (List.mem_map.mpr ⟨other, hother, hname⟩)
        rw [List.filter_cons_of_pos (by simp), hnone]
      · have hne : field.1 ≠ name := by
          rintro rfl
          exact hfirst (List.mem_map.mpr ⟨_, hmem, rfl⟩)
        rw [List.filter_cons_of_neg (by simpa using hne)]
        exact ih hfields hmem

end QueryBridge.Fields
