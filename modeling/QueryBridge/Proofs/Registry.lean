import Mathlib.Data.List.Nodup
import QueryBridge.Proofs.Lists
import QueryBridge.Proofs.Text.Blank
import QueryBridge.Registry

/-!
# Registries of proper names

A registry is made by adding structures one after the other.  It admits them all exactly if their
names are proper and distinct.  Otherwise the first of them that is wrong decides the error,
whatever follows it.
-/

namespace QueryBridge.Registry

/-! ## Names -/

/-- A name that is not blank and has no blanks at its ends. -/
structure IsProperName (name : String) : Prop where
  not_blank : ¬ Text.IsBlankRun name.toList
  trimmed : Text.IsTrimmed name.toList name.toList

/-- The names are proper, and no two of them are the same. -/
structure AreProper (names : List String) : Prop where
  proper : ∀ name ∈ names, IsProperName name
  distinct : names.Nodup

/-- What is wrong with a name behind others. -/
inductive IsNameFault (earlier : List String) (name : String) : NameError → Prop
  | blank (h : Text.IsBlankRun name.toList) : IsNameFault earlier name .blank
  | untrimmed (hfilled : ¬ Text.IsBlankRun name.toList)
      (h : ¬ Text.IsTrimmed name.toList name.toList) : IsNameFault earlier name (.untrimmed name)
  | repeated (hproper : IsProperName name) (h : name ∈ earlier) :
      IsNameFault earlier name (.repeated name)

theorem isProperName_iff {name : String} :
    IsProperName name ↔ name ≠ "" ∧ Text.trim name = name := by
  rw [Text.trim, ne_eq, ← String.toList_inj, ← String.toList_inj, String.toList_ofList,
    String.toList_ofList, ← Text.isTrimmed_self_iff]
  constructor
  · rintro ⟨hfilled, htrimmed⟩
    refine ⟨fun hnil => hfilled ?_, htrimmed⟩
    rw [hnil]
    exact List.forall_mem_nil _
  · rintro ⟨hfilled, htrimmed⟩
    refine ⟨fun hblank => hfilled ?_, htrimmed⟩
    rw [← htrimmed.trimChars_eq]
    exact Text.isBlankRun_iff_trimChars.mp hblank

instance (name : String) : Decidable (IsProperName name) :=
  decidable_of_iff _ isProperName_iff.symm

theorem areProper_iff {names : List String} :
    AreProper names ↔ (∀ name ∈ names, IsProperName name) ∧ names.Nodup :=
  ⟨fun h => ⟨h.proper, h.distinct⟩, fun h => ⟨h.1, h.2⟩⟩

instance (names : List String) : Decidable (AreProper names) :=
  decidable_of_iff _ areProper_iff.symm

theorem areProper_nil : AreProper [] :=
  ⟨nofun, List.nodup_nil⟩

theorem areProper_concat_iff {names : List String} {name : String} :
    AreProper (names ++ [name]) ↔ AreProper names ∧ IsProperName name ∧ name ∉ names := by
  rw [areProper_iff, areProper_iff, List.forall_mem_append, List.forall_mem_singleton,
    List.nodup_append_comm, List.singleton_append, List.nodup_cons]
  tauto

/-! ## Looking up -/

variable {registry result : Registry} {descriptor : Descriptor}

theorem contains_eq_true_iff {name : String} :
    registry.contains name = true ↔ name ∈ registry.names := by
  simp [contains]

theorem size_eq_length_names (registry : Registry) : registry.size = registry.names.length := by
  simp [size, names]

/-- Distinct names find their own structures. -/
theorem get?_eq_some_iff (h : registry.names.Nodup) {name : String} :
    registry.get? name = some descriptor ↔
      descriptor ∈ registry.entries ∧ descriptor.name = name := by
  constructor
  · intro hfound
    exact ⟨List.mem_of_find?_eq_some hfound, by simpa using List.find?_some hfound⟩
  · rintro ⟨hmem, rfl⟩
    obtain ⟨before, after, hsplit⟩ := List.append_of_mem hmem
    refine List.find?_eq_some_iff_append.mpr ⟨by simp, before, after, hsplit, ?_⟩
    intro other hother
    rw [names, hsplit, List.map_append, List.nodup_append] at h
    simpa using h.2.2 other.name (List.mem_map_of_mem hother) descriptor.name (by simp)

/-! ## Adding one structure -/

theorem trim_eq_empty_iff {name : String} :
    Text.trim name = "" ↔ Text.IsBlankRun name.toList := by
  rw [Text.isBlankRun_iff_trimChars, Text.trim, ← String.toList_inj, String.toList_ofList]
  rfl

theorem eq_trim_iff {name : String} :
    name = Text.trim name ↔ Text.IsTrimmed name.toList name.toList := by
  rw [Text.isTrimmed_self_iff, Text.trim, ← String.toList_inj, String.toList_ofList, eq_comm]

theorem add_of_isNameFault {error : NameError}
    (h : IsNameFault registry.names descriptor.name error) :
    registry.add descriptor = .error error := by
  unfold add
  cases h with
  | blank h => rw [if_pos (trim_eq_empty_iff.mpr h)]
  | untrimmed hfilled h =>
      rw [if_neg (mt trim_eq_empty_iff.mp hfilled), if_pos (mt eq_trim_iff.mp h)]
  | repeated hproper h =>
      rw [if_neg (mt trim_eq_empty_iff.mp hproper.not_blank),
        if_neg (not_not.mpr (eq_trim_iff.mpr hproper.trimmed)),
        if_pos (contains_eq_true_iff.mpr h)]

theorem add_of_isProperName (hproper : IsProperName descriptor.name)
    (hnew : descriptor.name ∉ registry.names) :
    registry.add descriptor = .ok ⟨registry.entries ++ [descriptor]⟩ := by
  unfold add
  rw [if_neg (mt trim_eq_empty_iff.mp hproper.not_blank),
    if_neg (not_not.mpr (eq_trim_iff.mpr hproper.trimmed)),
    if_neg (mt contains_eq_true_iff.mp hnew)]

/-- A name is admitted behind others, or something is wrong with it. -/
theorem isProperName_or_isNameFault (earlier : List String) (name : String) :
    (IsProperName name ∧ name ∉ earlier) ∨ ∃ error, IsNameFault earlier name error := by
  by_cases hblank : Text.IsBlankRun name.toList
  · exact Or.inr ⟨_, .blank hblank⟩
  · by_cases htrimmed : Text.IsTrimmed name.toList name.toList
    · by_cases hmem : name ∈ earlier
      · exact Or.inr ⟨_, .repeated ⟨hblank, htrimmed⟩ hmem⟩
      · exact Or.inl ⟨⟨hblank, htrimmed⟩, hmem⟩
    · exact Or.inr ⟨_, .untrimmed hblank htrimmed⟩

theorem add_eq_ok_iff :
    registry.add descriptor = .ok result ↔
      (IsProperName descriptor.name ∧ descriptor.name ∉ registry.names) ∧
        result = ⟨registry.entries ++ [descriptor]⟩ := by
  constructor
  · intro h
    rcases isProperName_or_isNameFault registry.names descriptor.name with
      hadmitted | ⟨error, hfault⟩
    · rw [add_of_isProperName hadmitted.1 hadmitted.2] at h
      exact ⟨hadmitted, (Except.ok.inj h).symm⟩
    · rw [add_of_isNameFault hfault] at h
      cases h
  · rintro ⟨⟨hproper, hnew⟩, rfl⟩
    exact add_of_isProperName hproper hnew

theorem add_eq_error_iff {error : NameError} :
    registry.add descriptor = .error error ↔
      IsNameFault registry.names descriptor.name error := by
  refine ⟨fun h => ?_, add_of_isNameFault⟩
  rcases isProperName_or_isNameFault registry.names descriptor.name with
    hadmitted | ⟨other, hfault⟩
  · rw [add_of_isProperName hadmitted.1 hadmitted.2] at h
    cases h
  · rw [add_of_isNameFault hfault] at h
    cases h
    exact hfault

/-! ## Adding a row of structures -/

section Rows

variable {ι ε : Type} (read : ι → Except ε Descriptor) (lift : NameError → ε)

/-- Adds the structure that is read from an item. -/
def addRead (registry : Registry) (item : ι) : Except ε Registry := do
  let descriptor ← read item
  (registry.add descriptor).mapError lift

/-- What is wrong with an item behind structures with the given names. -/
inductive IsFault (earlier : List String) (item : ι) : ε → Prop
  | unread {error : ε} (h : read item = .error error) : IsFault earlier item error
  | name {descriptor : Descriptor} {error : NameError} (hread : read item = .ok descriptor)
      (h : IsNameFault earlier descriptor.name error) : IsFault earlier item (lift error)

/-- The structures are read from the items, and their names can stand in one registry. -/
structure AreAdmitted (items : List ι) (descriptors : List Descriptor) : Prop where
  read : List.Forall₂ (fun item descriptor => read item = .ok descriptor) items descriptors
  proper : AreProper (descriptors.map Descriptor.name)

variable {read lift} {items : List ι} {item : ι} {error : ε}

theorem addRead_of_read (hread : read item = .ok descriptor) :
    addRead read lift registry item = (registry.add descriptor).mapError lift := by
  unfold addRead
  rw [hread]
  rfl

theorem addRead_of_read_error (hread : read item = .error error) :
    addRead read lift registry item = .error error := by
  unfold addRead
  rw [hread]
  rfl

theorem addRead_eq_ok_iff :
    addRead read lift registry item = .ok result ↔
      ∃ descriptor, read item = .ok descriptor ∧
        (IsProperName descriptor.name ∧ descriptor.name ∉ registry.names) ∧
        result = ⟨registry.entries ++ [descriptor]⟩ := by
  cases hread : read item with
  | error error =>
      rw [addRead_of_read_error hread]
      exact ⟨nofun, nofun⟩
  | ok descriptor =>
      rw [addRead_of_read hread]
      simp only [Except.ok.injEq, exists_eq_left', ← add_eq_ok_iff]
      cases registry.add descriptor with
      | error error => exact ⟨nofun, nofun⟩
      | ok other => simp [Except.mapError]

theorem addRead_eq_error_iff :
    addRead read lift registry item = .error error ↔
      IsFault read lift registry.names item error := by
  constructor
  · intro h
    cases hread : read item with
    | error other =>
        rw [addRead_of_read_error hread] at h
        cases h
        exact .unread hread
    | ok descriptor =>
        rw [addRead_of_read hread] at h
        cases hadd : registry.add descriptor with
        | error other =>
            rw [hadd] at h
            cases h
            exact .name hread (add_eq_error_iff.mp hadd)
        | ok other =>
            rw [hadd] at h
            cases h
  · rintro (hread | ⟨hread, hfault⟩)
    · exact addRead_of_read_error hread
    · rw [addRead_of_read hread, add_of_isNameFault hfault]
      rfl

theorem foldlM_concat {start : Registry} :
    (items ++ [item]).foldlM (addRead read lift) start =
      items.foldlM (addRead read lift) start >>= fun registry =>
        addRead read lift registry item := by
  rw [List.foldlM_append]
  simp only [List.foldlM_cons, List.foldlM_nil, bind_pure]

/-- The names of what has been added are proper at every time. -/
theorem foldlM_addRead_eq_ok_iff :
    items.foldlM (addRead read lift) empty = .ok registry ↔
      AreAdmitted read items registry.entries := by
  induction items using List.reverseRecOn generalizing registry with
  | nil =>
      constructor
      · intro h
        cases h
        exact ⟨.nil, areProper_nil⟩
      · rintro ⟨hread, -⟩
        obtain ⟨entries⟩ := registry
        cases hread
        rfl
  | append_singleton items item ih =>
      rw [foldlM_concat]
      constructor
      · intro h
        cases hearlier : items.foldlM (addRead read lift) empty with
        | error error =>
            rw [hearlier] at h
            cases h
        | ok earlier =>
            rw [hearlier] at h
            obtain ⟨descriptor, hread, ⟨hproper, hnew⟩, rfl⟩ := addRead_eq_ok_iff.mp h
            obtain ⟨hreads, hnames⟩ := ih.mp hearlier
            refine ⟨forall₂_concat hreads hread, ?_⟩
            rw [List.map_append, List.map_singleton]
            exact areProper_concat_iff.mpr ⟨hnames, hproper, hnew⟩
      · rintro ⟨hreads, hnames⟩
        obtain ⟨front, descriptor, hfront, hread, hentries⟩ := forall₂_concat_iff.mp hreads
        rw [hentries, List.map_append, List.map_singleton, areProper_concat_iff] at hnames
        have hearlier : items.foldlM (addRead read lift) empty = .ok ⟨front⟩ :=
          ih.mpr ⟨hfront, hnames.1⟩
        rw [hearlier]
        refine addRead_eq_ok_iff.mpr ⟨descriptor, hread, hnames.2, ?_⟩
        obtain ⟨entries⟩ := registry
        exact congrArg Registry.mk hentries

/-- The first item that cannot be added decides the error. -/
theorem foldlM_addRead_eq_error_iff :
    items.foldlM (addRead read lift) empty = .error error ↔
      ∃ before item after descriptors, items = before ++ item :: after ∧
        AreAdmitted read before descriptors ∧
        IsFault read lift (descriptors.map Descriptor.name) item error := by
  constructor
  · intro h
    induction items using List.reverseRecOn with
    | nil => cases h
    | append_singleton items last ih =>
        rw [foldlM_concat] at h
        cases hearlier : items.foldlM (addRead read lift) empty with
        | error other =>
            rw [hearlier] at h
            cases h
            obtain ⟨before, item, after, descriptors, rfl, hbefore, hfault⟩ := ih hearlier
            exact ⟨before, item, after ++ [last], descriptors, by simp, hbefore, hfault⟩
        | ok earlier =>
            rw [hearlier] at h
            exact ⟨items, last, [], earlier.entries, rfl, foldlM_addRead_eq_ok_iff.mp hearlier,
              addRead_eq_error_iff.mp h⟩
  · rintro ⟨before, item, after, descriptors, rfl, hbefore, hfault⟩
    have hearlier : before.foldlM (addRead read lift) empty = .ok ⟨descriptors⟩ :=
      foldlM_addRead_eq_ok_iff.mpr hbefore
    have hitem : addRead read lift ⟨descriptors⟩ item = .error error :=
      addRead_eq_error_iff.mpr hfault
    rw [List.foldlM_append, hearlier]
    change (addRead read lift ⟨descriptors⟩ item >>= _) = _
    rw [hitem]
    rfl

end Rows

/-! ## Descriptors and names -/

theorem ofDescriptors_eq (descriptors : List Descriptor) :
    ofDescriptors descriptors = descriptors.foldlM (addRead .ok id) empty := by
  have hstep : add = addRead .ok id := by
    funext registry descriptor
    change registry.add descriptor = (registry.add descriptor).mapError id
    cases registry.add descriptor <;> rfl
  unfold ofDescriptors
  rw [hstep]

theorem areAdmitted_ok_iff {descriptors entries : List Descriptor} :
    AreAdmitted (ε := NameError) .ok descriptors entries ↔
      entries = descriptors ∧ AreProper (descriptors.map Descriptor.name) := by
  constructor
  · rintro ⟨hread, hproper⟩
    simp only [Except.ok.injEq, List.forall₂_eq_eq_eq] at hread
    subst hread
    exact ⟨rfl, hproper⟩
  · rintro ⟨rfl, hproper⟩
    refine ⟨?_, hproper⟩
    simp only [Except.ok.injEq, List.forall₂_eq_eq_eq]

theorem ofDescriptors_eq_ok_iff {descriptors : List Descriptor} :
    ofDescriptors descriptors = .ok registry ↔
      registry.entries = descriptors ∧ AreProper (descriptors.map Descriptor.name) := by
  rw [ofDescriptors_eq, foldlM_addRead_eq_ok_iff, areAdmitted_ok_iff]

theorem isFault_ok_iff {earlier : List String} {error : NameError} :
    IsFault .ok id earlier descriptor error ↔ IsNameFault earlier descriptor.name error := by
  constructor
  · rintro (hread | ⟨hread, hfault⟩)
    · cases hread
    · cases hread
      exact hfault
  · intro hfault
    have hname : IsFault .ok id earlier descriptor (id error) := .name rfl hfault
    exact hname

theorem ofDescriptors_eq_error_iff {descriptors : List Descriptor} {error : NameError} :
    ofDescriptors descriptors = .error error ↔
      ∃ before descriptor after, descriptors = before ++ descriptor :: after ∧
        AreProper (before.map Descriptor.name) ∧
        IsNameFault (before.map Descriptor.name) descriptor.name error := by
  rw [ofDescriptors_eq, foldlM_addRead_eq_error_iff]
  constructor
  · rintro ⟨before, item, after, entries, hsplit, hbefore, hfault⟩
    obtain ⟨rfl, hproper⟩ := areAdmitted_ok_iff.mp hbefore
    exact ⟨entries, item, after, hsplit, hproper, isFault_ok_iff.mp hfault⟩
  · rintro ⟨before, item, after, hsplit, hproper, hfault⟩
    exact ⟨before, item, after, before, hsplit, areAdmitted_ok_iff.mpr ⟨rfl, hproper⟩,
      isFault_ok_iff.mpr hfault⟩

/-- The structure that has a name and nothing else. -/
def plain (name : String) : Descriptor :=
  ⟨name, "", []⟩

theorem map_name_map_plain (names : List String) :
    (names.map plain).map Descriptor.name = names := by
  rw [List.map_map]
  exact List.map_id names

theorem ofNames_eq_ok_iff {names : List String} :
    ofNames names = .ok registry ↔ registry.entries = names.map plain ∧ AreProper names := by
  change ofDescriptors (names.map plain) = .ok registry ↔ _
  rw [ofDescriptors_eq_ok_iff, map_name_map_plain]

theorem ofNames_eq_error_iff {names : List String} {error : NameError} :
    ofNames names = .error error ↔
      ∃ before name after, names = before ++ name :: after ∧ AreProper before ∧
        IsNameFault before name error := by
  change ofDescriptors (names.map plain) = .error error ↔ _
  rw [ofDescriptors_eq_error_iff]
  constructor
  · rintro ⟨before, descriptor, after, hsplit, hproper, hfault⟩
    obtain ⟨front, rest, rfl, rfl, hrest⟩ := List.map_eq_append_iff.mp hsplit
    obtain ⟨name, later, rfl, rfl, -⟩ := List.map_eq_cons_iff.mp hrest
    rw [map_name_map_plain] at hproper hfault
    exact ⟨front, name, later, rfl, hproper, hfault⟩
  · rintro ⟨before, name, after, rfl, hproper, hfault⟩
    refine ⟨before.map plain, plain name, after.map plain, by simp, ?_, ?_⟩
    · rwa [map_name_map_plain]
    · rwa [map_name_map_plain]

end QueryBridge.Registry
