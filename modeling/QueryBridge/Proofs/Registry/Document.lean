import QueryBridge.Proofs.Datum
import QueryBridge.Proofs.Failure
import QueryBridge.Proofs.Registry
import QueryBridge.Registry.Document
import QueryBridge.Runtime.Standard

/-!
# Registries from entries

An entry names a structure if it is a text or a mapping with a name.  A list of entries gives a
registry exactly if every entry names a structure, the names can stand in one registry, and what
the entries hold can be written.  Otherwise the first entry that is wrong decides the error.
-/

namespace QueryBridge.Registry

/-! ## Entries -/

/-- The name that an entry gives. -/
inductive IsNamed : Datum → String → Prop
  | text (name : String) : IsNamed (.text name) name
  | mapping {entries : List (Datum × Datum)} {value : Datum}
      (h : Datum.Holds entries "name" value) : IsNamed (.mapping entries) value.display

/-- The values under a key for tags that are shown. -/
def tagValues : Option Datum → List Datum
  | none | some .null => []
  | some (.list items) | some (.tuple items) | some (.set items) => items
  | some value => [value]

/-- The values of an entry that are shown, in order: its name, its description and its tags. -/
def shownValues : Datum → List Datum
  | .mapping entries =>
      (Datum.get? entries "name").toList ++
        ((Datum.get? entries "description").filter fun value => !value.isEmpty).toList ++
        tagValues (Datum.get? entries "tags")
  | _ => []

/-- What a mapping shows that has a name and a description. -/
theorem shownValues_of_description {name : String} {description : Datum}
    (h : description.isEmpty = false) :
    shownValues (.mapping [(.text "name", .text name), (.text "description", description)]) =
      [.text name, description] := by
  simp [shownValues, tagValues, Datum.get?, Datum.sameKey, Option.filter, h]

section

variable [Runtime]

/-- All that an entry shows can be shown. -/
def IsExpressible (entry : Datum) : Prop :=
  ∀ value ∈ shownValues entry, value.fault? = none

/-- The first value of an entry that cannot be shown has the fault. -/
def IsFirstFault (entry : Datum) (fault : Datum.Fault) : Prop :=
  ∃ before value after, shownValues entry = before ++ value :: after ∧
    (∀ other ∈ before, other.fault? = none) ∧ value.fault? = some fault

/-- What is wrong with an entry behind structures with the given names. -/
inductive IsEntryFault (path : String) (earlier : List String) : Datum → LoadError → Prop
  | kind {entry : Datum} (htext : ∀ name, entry ≠ .text name)
      (hmapping : ∀ entries, entry ≠ .mapping entries) :
      IsEntryFault path earlier entry (.entryKind path entry.kindName)
  | noName {entries : List (Datum × Datum)} (h : ∀ value, ¬ Datum.Holds entries "name" value) :
      IsEntryFault path earlier (.mapping entries) (.noName path)
  | unwritable {entry : Datum} {name : String} {fault : Datum.Fault} (hname : IsNamed entry name)
      (h : IsFirstFault entry fault) : IsEntryFault path earlier entry (.unwritable fault)
  | name {entry : Datum} {name : String} {error : NameError} (hname : IsNamed entry name)
      (hexpressible : IsExpressible entry) (h : IsNameFault earlier name error) :
      IsEntryFault path earlier entry (.name error)

variable {path : String} {entries : List (Datum × Datum)} {entry : Datum}
  {descriptor : Descriptor} {error : LoadError}

theorem isExpressible_text (name : String) : IsExpressible (.text name) :=
  List.forall_mem_nil _

theorem not_isFirstFault_text (name : String) (fault : Datum.Fault) :
    ¬ IsFirstFault (.text name) fault := by
  rintro ⟨before, value, after, h, -⟩
  exact List.append_ne_nil_of_right_ne_nil before (List.cons_ne_nil value after) h.symm

theorem isExpressible_iff {entry : Datum} :
    IsExpressible entry ↔ (shownValues entry).findSome? Datum.fault? = none :=
  List.findSome?_eq_none_iff.symm

theorem isFirstFault_iff {entry : Datum} {fault : Datum.Fault} :
    IsFirstFault entry fault ↔ (shownValues entry).findSome? Datum.fault? = some fault := by
  rw [List.findSome?_eq_some_iff]
  unfold IsFirstFault
  constructor
  · rintro ⟨before, value, after, hsplit, hbefore, hvalue⟩
    exact ⟨before, value, after, hsplit, hvalue, hbefore⟩
  · rintro ⟨before, value, after, hsplit, hvalue, hbefore⟩
    exact ⟨before, value, after, hsplit, hbefore, hvalue⟩

/-! ## Showing values -/

/-- A reader that shows values fails exactly with the first fault of them. -/
structure FailsOnFault {α : Type} (values : List Datum) (outcome : Except LoadError α) : Prop where
  succeeds : values.findSome? Datum.fault? = none → ∃ result, outcome = .ok result
  fails : ∀ fault, values.findSome? Datum.fault? = some fault →
    outcome = .error (.unwritable fault)

section Showing

variable {α β : Type} {values others : List Datum}

theorem failsOnFault_nil (result : α) : FailsOnFault [] (.ok result) :=
  ⟨fun _ => ⟨result, rfl⟩, nofun⟩

theorem FailsOnFault.bind {outcome : Except LoadError α} {next : α → Except LoadError β}
    (h : FailsOnFault values outcome)
    (hnext : ∀ result, outcome = .ok result → FailsOnFault others (next result)) :
    FailsOnFault (values ++ others) (outcome >>= next) := by
  -- the first fault is one of the first values, or these have none and the others decide
  cases hfault : values.findSome? Datum.fault? with
  | none =>
      obtain ⟨result, rfl⟩ := h.succeeds hfault
      have hrest : (values ++ others).findSome? Datum.fault? = others.findSome? Datum.fault? := by
        rw [List.findSome?_append, hfault, Option.none_or]
      exact ⟨fun hnone => (hnext result rfl).succeeds (hrest.symm.trans hnone),
        fun fault hsome => (hnext result rfl).fails fault (hrest.symm.trans hsome)⟩
  | some fault =>
      have hfirst : (values ++ others).findSome? Datum.fault? = some fault := by
        rw [List.findSome?_append, hfault, Option.some_or]
      rw [h.fails fault hfault]
      refine ⟨fun hnone => ?_, fun other hother => ?_⟩
      · rw [hfirst] at hnone
        cases hnone
      · rw [hfirst] at hother
        cases hother
        rfl

theorem FailsOnFault.map {outcome : Except LoadError α} (h : FailsOnFault values outcome)
    (f : α → β) : FailsOnFault values (outcome.map f) := by
  refine ⟨fun hnone => ?_, fun fault hfault => ?_⟩
  · obtain ⟨result, rfl⟩ := h.succeeds hnone
    exact ⟨f result, rfl⟩
  · rw [h.fails fault hfault]
    rfl

theorem textOf_of_fault?_eq_none {value : Datum} (h : value.fault? = none) :
    textOf value = .ok value.display := by
  unfold textOf
  rw [Datum.toText_of_fault?_eq_none h]
  rfl

theorem textOf_of_fault?_eq_some {value : Datum} {fault : Datum.Fault}
    (h : value.fault? = some fault) : textOf value = .error (.unwritable fault) := by
  unfold textOf
  rw [Datum.toText_of_fault?_eq_some h]
  rfl

theorem failsOnFault_textOf (value : Datum) : FailsOnFault [value] (textOf value) := by
  refine ⟨fun h => ?_, fun fault h => ?_⟩
  · rw [List.findSome?_singleton] at h
    exact ⟨value.display, textOf_of_fault?_eq_none h⟩
  · rw [List.findSome?_singleton] at h
    exact textOf_of_fault?_eq_some h

theorem failsOnFault_descriptionOf (value : Option Datum) :
    FailsOnFault (value.filter fun value => !value.isEmpty).toList (descriptionOf value) := by
  cases value with
  | none => exact failsOnFault_nil ""
  | some value =>
      cases hempty : value.isEmpty with
      | true =>
          rw [descriptionOf, if_pos hempty, Option.filter, hempty]
          exact failsOnFault_nil ""
      | false =>
          rw [descriptionOf, hempty, Option.filter, hempty]
          exact failsOnFault_textOf value

theorem failsOnFault_mapM_textOf (items : List Datum) :
    FailsOnFault items (items.mapM textOf) := by
  induction items with
  | nil => exact failsOnFault_nil []
  | cons item items ih =>
      rw [List.mapM_cons]
      exact (failsOnFault_textOf item).bind fun text _ => ih.map (text :: ·)

theorem failsOnFault_single (value : Datum) :
    FailsOnFault [value] ((textOf value).map fun text => [text]) :=
  (failsOnFault_textOf value).map fun text => [text]

theorem failsOnFault_tagsOf (value : Option Datum) :
    FailsOnFault (tagValues value) (tagsOf value) := by
  cases value with
  | none => exact failsOnFault_nil []
  | some value =>
      cases value with
      | null => exact failsOnFault_nil []
      | list items | tuple items | set items => exact failsOnFault_mapM_textOf items
      | _ => exact failsOnFault_single _

end Showing

theorem descriptorOf_of_noName (h : ∀ value, ¬ Datum.Holds entries "name" value) :
    descriptorOf path (.mapping entries) = .error (.noName path) := by
  rw [descriptorOf, Datum.get?_eq_none_iff.mpr h]

theorem failsOnFault_descriptorOf (path : String) {value : Datum}
    (h : Datum.Holds entries "name" value) :
    FailsOnFault (shownValues (.mapping entries)) (descriptorOf path (.mapping entries)) := by
  have hname := Datum.get?_eq_some_iff.mpr h
  rw [descriptorOf, shownValues, hname, List.append_assoc]
  refine (failsOnFault_textOf value).bind fun name _ => ?_
  refine (failsOnFault_descriptionOf _).bind fun description _ => ?_
  exact (failsOnFault_tagsOf _).map fun tags => Descriptor.mk name description tags

theorem name_of_descriptorOf {value : Datum} (h : Datum.Holds entries "name" value)
    (hdescriptor : descriptorOf path (.mapping entries) = .ok descriptor) :
    descriptor.name = value.display := by
  rw [descriptorOf, Datum.get?_eq_some_iff.mpr h] at hdescriptor
  obtain ⟨name, hname, hdescriptor⟩ := exists_of_bind_eq_ok hdescriptor
  obtain ⟨description, -, hdescriptor⟩ := exists_of_bind_eq_ok hdescriptor
  obtain ⟨tags, -, hdescriptor⟩ := exists_of_bind_eq_ok hdescriptor
  cases hdescriptor
  cases hfault : value.fault? with
  | none =>
      rw [textOf_of_fault?_eq_none hfault] at hname
      exact (Except.ok.inj hname).symm
  | some fault =>
      rw [textOf_of_fault?_eq_some hfault] at hname
      cases hname

/-- A mapping with a name gives a structure if all it shows can be shown. -/
theorem descriptorOf_mapping_cases (path : String) {value : Datum}
    (h : Datum.Holds entries "name" value) :
    (IsExpressible (.mapping entries) ∧ ∃ descriptor,
        descriptorOf path (.mapping entries) = .ok descriptor ∧
        descriptor.name = value.display) ∨
      ∃ fault, IsFirstFault (.mapping entries) fault ∧
        descriptorOf path (.mapping entries) = .error (.unwritable fault) := by
  have hdescriptor := failsOnFault_descriptorOf path h
  cases hfault : (shownValues (.mapping entries)).findSome? Datum.fault? with
  | none =>
      obtain ⟨descriptor, heq⟩ := hdescriptor.succeeds hfault
      exact Or.inl ⟨isExpressible_iff.mpr hfault, descriptor, heq, name_of_descriptorOf h heq⟩
  | some fault =>
      exact Or.inr ⟨fault, isFirstFault_iff.mpr hfault, hdescriptor.fails fault hfault⟩

theorem IsExpressible.not_isFirstFault {entry : Datum} {fault : Datum.Fault}
    (h : IsExpressible entry) : ¬ IsFirstFault entry fault := by
  rw [isFirstFault_iff, isExpressible_iff.mp h]
  nofun

theorem IsFirstFault.unique {entry : Datum} {first second : Datum.Fault}
    (h : IsFirstFault entry first) (h' : IsFirstFault entry second) : first = second := by
  rw [isFirstFault_iff] at h h'
  exact Option.some.inj (h.symm.trans h')

/-- An entry gives a structure, or something is wrong with it whatever stands in front of it. -/
theorem descriptorOf_cases (path : String) (entry : Datum) :
    (∃ descriptor, descriptorOf path entry = .ok descriptor ∧ IsNamed entry descriptor.name ∧
        IsExpressible entry) ∨
      ∃ error, descriptorOf path entry = .error error ∧
        ∀ earlier, IsEntryFault path earlier entry error := by
  cases entry with
  | text name => exact Or.inl ⟨plain name, rfl, .text name, isExpressible_text name⟩
  | mapping entries =>
      cases hname : Datum.get? entries "name" with
      | none =>
          have hnone := Datum.get?_eq_none_iff.mp hname
          exact Or.inr ⟨_, descriptorOf_of_noName hnone, fun earlier => .noName hnone⟩
      | some value =>
          have hholds := Datum.get?_eq_some_iff.mp hname
          rcases descriptorOf_mapping_cases path hholds with
            ⟨hexpressible, descriptor, heq, hdisplay⟩ | ⟨fault, hfault, heq⟩
          · refine Or.inl ⟨descriptor, heq, ?_, hexpressible⟩
            rw [hdisplay]
            exact .mapping hholds
          · exact Or.inr ⟨_, heq, fun earlier => .unwritable (.mapping hholds) hfault⟩
  | _ => exact Or.inr ⟨_, rfl, fun earlier => .kind nofun nofun⟩

theorem descriptorOf_eq_ok (h : descriptorOf path entry = .ok descriptor) :
    IsNamed entry descriptor.name ∧ IsExpressible entry := by
  rcases descriptorOf_cases path entry with ⟨other, heq, hentry⟩ | ⟨error, heq, -⟩
  · rw [heq] at h
    cases h
    exact hentry
  · rw [heq] at h
    cases h

theorem exists_descriptorOf (path : String) {name : String} (hname : IsNamed entry name)
    (h : IsExpressible entry) :
    ∃ descriptor, descriptorOf path entry = .ok descriptor ∧ descriptor.name = name := by
  cases hname with
  | text name => exact ⟨plain name, rfl, rfl⟩
  | mapping hholds =>
      rcases descriptorOf_mapping_cases path hholds with
        ⟨-, descriptor, heq, hdisplay⟩ | ⟨fault, hfault, -⟩
      · exact ⟨descriptor, heq, hdisplay⟩
      · exact absurd hfault h.not_isFirstFault

/-- What is wrong with an entry can be told from the entry and the names in front of it. -/
theorem isFault_descriptorOf_iff {earlier : List String} :
    IsFault (descriptorOf path) .name earlier entry error ↔
      IsEntryFault path earlier entry error := by
  constructor
  · rintro (h | ⟨hread, hfault⟩)
    · rcases descriptorOf_cases path entry with ⟨descriptor, heq, -⟩ | ⟨other, heq, hentry⟩
      · rw [heq] at h
        cases h
      · rw [heq] at h
        cases h
        exact hentry earlier
    · obtain ⟨hname, hexpressible⟩ := descriptorOf_eq_ok hread
      exact .name hname hexpressible hfault
  · intro h
    cases h with
    | kind htext hmapping =>
        cases entry with
        | text name => exact absurd rfl (htext name)
        | mapping entries => exact absurd rfl (hmapping entries)
        | _ => exact .unread rfl
    | noName h => exact .unread (descriptorOf_of_noName h)
    | unwritable hname hfault =>
        -- a text is shown as it is, so only a mapping can have a fault
        cases hname with
        | text => exact absurd hfault (not_isFirstFault_text _ _)
        | mapping hholds =>
            rcases descriptorOf_mapping_cases path hholds with
              ⟨hexpressible, -⟩ | ⟨other, hother, heq⟩
            · exact absurd hfault hexpressible.not_isFirstFault
            · rw [hfault.unique hother]
              exact .unread heq
    | name hname hexpressible hfault =>
        obtain ⟨descriptor, hread, rfl⟩ := exists_descriptorOf path hname hexpressible
        exact .name hread hfault

/-! ## Lists of entries -/

/-- The entries give the names, which can stand in one registry. -/
structure AreUsable (items : List Datum) (names : List String) : Prop where
  expressible : ∀ item ∈ items, IsExpressible item
  named : List.Forall₂ IsNamed items names
  proper : AreProper names

theorem areUsable_of_areAdmitted {items : List Datum} {descriptors : List Descriptor}
    (h : AreAdmitted (descriptorOf path) items descriptors) :
    AreUsable items (descriptors.map Descriptor.name) := by
  obtain ⟨hread, hproper⟩ := h
  refine ⟨?_, ?_, hproper⟩
  · clear hproper
    induction hread with
    | nil => exact nofun
    | cons hread _ ih => exact List.forall_mem_cons.mpr ⟨(descriptorOf_eq_ok hread).2, ih⟩
  · rw [List.forall₂_map_right_iff]
    exact hread.imp fun item descriptor hread => (descriptorOf_eq_ok hread).1

theorem exists_areAdmitted {items : List Datum} {names : List String} (h : AreUsable items names)
    (path : String) : ∃ descriptors, AreAdmitted (descriptorOf path) items descriptors ∧
      descriptors.map Descriptor.name = names := by
  obtain ⟨hexpressible, hnamed, hproper⟩ := h
  have hread : ∃ descriptors,
      List.Forall₂ (fun item descriptor => descriptorOf path item = .ok descriptor)
        items descriptors ∧ descriptors.map Descriptor.name = names := by
    clear hproper
    induction hnamed with
    | nil => exact ⟨[], .nil, rfl⟩
    | cons hname _ ih =>
        rw [List.forall_mem_cons] at hexpressible
        obtain ⟨descriptor, hdescriptor, rfl⟩ :=
          exists_descriptorOf path hname hexpressible.1
        obtain ⟨descriptors, hrest, rfl⟩ := ih hexpressible.2
        exact ⟨descriptor :: descriptors, .cons hdescriptor hrest, rfl⟩
  obtain ⟨descriptors, hread, rfl⟩ := hread
  exact ⟨descriptors, ⟨hread, hproper⟩, rfl⟩

theorem ofDatum_list (path : String) (items : List Datum) :
    ofDatum path (.list items) = items.foldlM (addRead (descriptorOf path) .name) empty := rfl

/-- A list of texts gives what the names give. -/
theorem ofDatum_map_text (path : String) (names : List String) :
    ofDatum path (.list (names.map .text)) = (ofNames names).mapError .name := by
  rw [ofDatum_list]
  cases hnames : ofNames names with
  | ok registry =>
      obtain ⟨hentries, hproper⟩ := ofNames_eq_ok_iff.mp hnames
      refine foldlM_addRead_eq_ok_iff.mpr ⟨?_, ?_⟩
      · rw [hentries, List.forall₂_map_left_iff, List.forall₂_map_right_iff]
        exact List.forall₂_same.mpr fun name _ => rfl
      · rwa [hentries, map_name_map_plain]
  | error error =>
      obtain ⟨before, name, after, rfl, hproper, hfault⟩ := ofNames_eq_error_iff.mp hnames
      refine foldlM_addRead_eq_error_iff.mpr
        ⟨before.map .text, .text name, after.map .text, before.map plain, by simp, ⟨?_, ?_⟩, ?_⟩
      · rw [List.forall₂_map_left_iff, List.forall₂_map_right_iff]
        exact List.forall₂_same.mpr fun name _ => rfl
      · rwa [map_name_map_plain]
      · rw [map_name_map_plain]
        exact .name rfl hfault

theorem ofDatum_list_eq_error_iff {items : List Datum} :
    ofDatum path (.list items) = .error error ↔
      ∃ before item after names, items = before ++ item :: after ∧ AreUsable before names ∧
        IsEntryFault path names item error := by
  rw [ofDatum_list, foldlM_addRead_eq_error_iff]
  constructor
  · rintro ⟨before, item, after, descriptors, hsplit, hbefore, hfault⟩
    exact ⟨before, item, after, _, hsplit, areUsable_of_areAdmitted hbefore,
      isFault_descriptorOf_iff.mp hfault⟩
  · rintro ⟨before, item, after, names, hsplit, hbefore, hfault⟩
    obtain ⟨descriptors, hadmitted, rfl⟩ := exists_areAdmitted hbefore path
    exact ⟨before, item, after, descriptors, hsplit, hadmitted,
      isFault_descriptorOf_iff.mpr hfault⟩

/-- Every error of an entry is reported but that of a value which cannot be shown. -/
theorem IsEntryFault.isReported_iff {earlier : List String}
    (h : IsEntryFault path earlier entry error) :
    error.isReported = true ↔ ∀ fault, error ≠ .unwritable fault := by
  cases h <;> simp [LoadError.isReported]

/-! ## Files -/

/-- The bytes are a YAML document with the value. -/
def IsDocument (bytes : List UInt8) (value : Datum) : Prop :=
  ∃ text, Text.Utf8.decode? bytes = some text ∧ Yaml.read (Text.unifyNewlines text) = .ok value

/-- A text is read in stages: its tokens, the root of its nodes, and the value of the root. -/
theorem isDocument_of_root {bytes : List UInt8} {text : List Char} {tokens : Yaml.Scan}
    {root : Yaml.Node} {value : Datum} (htext : Text.Utf8.decode? bytes = some text)
    (hadmitted : (Text.unifyNewlines text).all Yaml.isAdmitted = true)
    (htokens : Yaml.scan (Text.unifyNewlines text) = tokens)
    (hroot : Yaml.Node.ofScan tokens = .ok (some root)) (hvalue : root.toDatum = .ok value) :
    IsDocument bytes value := by
  refine ⟨text, htext, ?_⟩
  unfold Yaml.read
  rw [hadmitted, htokens]
  change (Yaml.Node.ofScan tokens >>= _) = _
  rw [hroot]
  exact hvalue

theorem ofFile_of_isDocument {bytes : List UInt8} {value : Datum} (h : IsDocument bytes value)
    (path : String) : ofFile path (some bytes) = ofDatum path value := by
  obtain ⟨text, htext, hvalue⟩ := h
  unfold ofFile ofBytes
  simp only [htext, hvalue]

/-- Names, structures and the entries of a file make a registry exactly if each of them gives a
name, the names are proper and distinct, and what the entries hold can be written.  The registry
then holds them in order and finds them by their names.  Otherwise the first of them that is
wrong decides the error, whatever follows it. -/
theorem registries_hold_valid_entries (names : List String) (descriptors : List Descriptor)
    (path : String) (bytes : List UInt8) (entries : List Datum) :
    ((∀ registry, ofNames names = .ok registry ↔
        registry.entries = names.map plain ∧ AreProper names) ∧
      ∀ error, ofNames names = .error error ↔
        ∃ before name after, names = before ++ name :: after ∧ AreProper before ∧
          IsNameFault before name error) ∧
    ((∀ registry, ofDescriptors descriptors = .ok registry ↔
        registry.entries = descriptors ∧ AreProper (descriptors.map Descriptor.name)) ∧
      ∀ error, ofDescriptors descriptors = .error error ↔
        ∃ before descriptor after, descriptors = before ++ descriptor :: after ∧
          AreProper (before.map Descriptor.name) ∧
          IsNameFault (before.map Descriptor.name) descriptor.name error) ∧
    (IsDocument bytes (.list entries) →
      (∀ registry, ofFile path (some bytes) = .ok registry →
        AreUsable entries registry.names ∧
          List.Forall₂ (fun entry descriptor => descriptorOf path entry = .ok descriptor)
            entries registry.entries) ∧
      (∀ given, AreUsable entries given →
        ∃ registry, ofFile path (some bytes) = .ok registry ∧ registry.names = given) ∧
      (∀ error, ofFile path (some bytes) = .error error ↔
        ∃ before entry after given, entries = before ++ entry :: after ∧
          AreUsable before given ∧ IsEntryFault path given entry error) ∧
      (∀ error, ofFile path (some bytes) = .error error →
        (error.isReported = true ↔ ∀ fault, error ≠ .unwritable fault)) ∧
      (entries = names.map .text →
        ofFile path (some bytes) = (ofNames names).mapError .name)) ∧
    ∀ registry : Registry,
      registry.size = registry.names.length ∧
      (∀ name, registry.contains name = true ↔ name ∈ registry.names) ∧
      (registry.names.Nodup → ∀ name descriptor,
        registry.get? name = some descriptor ↔
          descriptor ∈ registry.entries ∧ descriptor.name = name) := by
  refine ⟨⟨fun registry => ofNames_eq_ok_iff, fun error => ofNames_eq_error_iff⟩,
    ⟨fun registry => ofDescriptors_eq_ok_iff, fun error => ofDescriptors_eq_error_iff⟩, ?_, ?_⟩
  · intro hdocument
    rw [ofFile_of_isDocument hdocument]
    refine ⟨?_, ?_, fun error => ofDatum_list_eq_error_iff, ?_, ?_⟩
    · intro registry hregistry
      have hadmitted := foldlM_addRead_eq_ok_iff.mp hregistry
      exact ⟨areUsable_of_areAdmitted hadmitted, hadmitted.read⟩
    · intro given husable
      obtain ⟨descriptors, hadmitted, hnames⟩ := exists_areAdmitted husable path
      exact ⟨⟨descriptors⟩, foldlM_addRead_eq_ok_iff.mpr hadmitted, hnames⟩
    · intro error herror
      obtain ⟨-, entry, -, given, -, -, hfault⟩ := ofDatum_list_eq_error_iff.mp herror
      exact hfault.isReported_iff
    · rintro rfl
      exact ofDatum_map_text path names
  · exact fun registry => ⟨size_eq_length_names registry, fun name => contains_eq_true_iff,
      fun hdistinct name descriptor => get?_eq_some_iff hdistinct⟩

end

/-- A name that is repeated decides the error although a worse entry follows. -/
theorem repeated_name_is_first_fault :
    let bytes := Text.Utf8.encode "- A\n- name: B\n- A\n- [C]".toList
    IsDocument bytes (.list [.text "A", .mapping [(.text "name", .text "B")], .text "A",
        .list [.text "C"]]) ∧
      AreUsable [.text "A", .mapping [(.text "name", .text "B")]] ["A", "B"] ∧
      ofFile "s" (some bytes) = .error (.name (.repeated "A")) := by
  intro bytes
  have hdocument : IsDocument bytes (.list [.text "A", .mapping [(.text "name", .text "B")],
      .text "A", .list [.text "C"]]) :=
    isDocument_of_root (Text.Utf8.decode?_encode _) (by decide +kernel)
      (by decide +kernel : _ = Yaml.Scan.mk [.blockSequenceStart, .blockEntry, .scalar true "A",
        .blockEntry, .blockMappingStart, .key, .scalar true "name", .value, .scalar true "B",
        .blockEnd, .blockEntry, .scalar true "A", .blockEntry, .flowSequenceStart,
        .scalar true "C", .flowSequenceEnd, .blockEnd] none)
      (by with_unfolding_all rfl : _ = Except.ok (some (.sequence .sequence
        [.scalar .text "A", .mapping .mapping [(.scalar .text "name", .scalar .text "B")],
          .scalar .text "A", .sequence .sequence [.scalar .text "C"]])))
      (by with_unfolding_all rfl)
  have hholds : Datum.Holds [(.text "name", .text "B")] "name" (.text "B") :=
    ⟨[], [], rfl, List.forall_mem_nil _⟩
  have husable : AreUsable [.text "A", .mapping [(.text "name", .text "B")]] ["A", "B"] := by
    refine ⟨?_, .cons (.text "A") (.cons (.mapping hholds) .nil), by decide⟩
    rw [List.forall_mem_cons, List.forall_mem_singleton]
    exact ⟨isExpressible_text "A", List.forall_mem_singleton.mpr (Datum.fault?_text "B")⟩
  refine ⟨hdocument, husable, ?_⟩
  obtain ⟨-, -, hfile, -⟩ := registries_hold_valid_entries [] [] "s" bytes _
  refine ((hfile hdocument).2.2.1 _).mpr
    ⟨_, .text "A", [.list [.text "C"]], ["A", "B"], rfl, husable, ?_⟩
  exact .name (.text "A") (isExpressible_text "A") (.repeated (husable.proper.proper "A" (by simp))
    (by simp))

/-- An integer with too many digits spoils an entry with a proper name, and the error is not
reported. -/
theorem long_integer_is_not_reported :
    let entry := Datum.mapping [(.text "name", .text "A"),
      (.text "description", .int (Nat.pow 10 Json.Token.maxDigits : Nat))]
    IsNamed entry "A" ∧ AreProper ["A"] ∧
      ofDatum "s" (.list [entry]) = .error (.unwritable .digits) ∧
      (LoadError.unwritable .digits).isReported = false := by
  intro entry
  have hname : IsNamed entry "A" := .mapping ⟨[], _, rfl, List.forall_mem_nil _⟩
  have hlong : ¬ Json.Token.IsAdmitted (Nat.pow 10 Json.Token.maxDigits : Nat) := by
    simp only [Json.Token.IsAdmitted, Int.natAbs_natCast, Nat.pow_eq, Nat.lt_irrefl,
      not_false_eq_true]
  have hfault : IsFirstFault entry .digits :=
    ⟨[.text "A"], _, [], shownValues_of_description (Datum.isEmpty_int_of_not_isAdmitted hlong),
      List.forall_mem_singleton.mpr (Datum.fault?_text "A"),
      Datum.fault?_int_of_not_isAdmitted hlong⟩
  exact ⟨hname, by decide, ofDatum_list_eq_error_iff.mpr ⟨[], entry, [], [], rfl,
    ⟨List.forall_mem_nil _, .nil, areProper_nil⟩, .unwritable hname hfault⟩, rfl⟩

end QueryBridge.Registry
