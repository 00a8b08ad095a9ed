import Mathlib.Data.List.Forall2
import QueryBridge.Property
import QueryBridge.Proofs.Fields

/-!
# Properties under any history

A property map is made from definitions and then given values by any number of mappings.  One
assignment keeps every name in its place and changes the value under its own name only; so after
a whole history each name stands where it was first defined, with its last definition and the
value that was given to it last.  Listings follow, and show of a sensitive value only whether
there is one and whether it is empty.
-/

namespace QueryBridge

namespace Property

/-- The property has a value that is not empty. -/
def HasText (property : Property) : Prop :=
  ∃ text, property.value = some text ∧ text ≠ ""

/-- How a listing shows a property. -/
structure IsShownAs (property : Property) (listing : Listing) : Prop where
  name_eq : listing.name = property.name
  required_eq : listing.required = property.required
  sensitive_eq : listing.sensitive = property.sensitive
  masked : property.sensitive = true → property.HasText → listing.value = some mask
  shown : ¬ (property.sensitive = true ∧ property.HasText) → listing.value = property.value

/-- The values are the same, or they are those of a sensitive property and neither is empty. -/
def LooksLike (first second : Property) : Prop :=
  first.value = second.value ∨ first.sensitive = true ∧ first.HasText ∧ second.HasText

variable {property first second : Property}

theorem isFilled_iff_hasText (property : Property) :
    property.isFilled = true ↔ property.HasText := by
  unfold isFilled HasText
  cases property.value with
  | none => simp
  | some text => simp

theorem isFilled_eq_false_iff :
    property.isFilled = false ↔ property.value = none ∨ property.value = some "" := by
  unfold isFilled
  cases property.value with
  | none => simp
  | some text => simp

theorem isShownAs_listing (property : Property) : property.IsShownAs property.listing where
  name_eq := rfl
  required_eq := rfl
  sensitive_eq := rfl
  masked hsensitive htext := by
    rw [listing, displayValue, (isFilled_iff_hasText property).mpr htext, hsensitive]
    rfl
  shown h := by
    rw [← isFilled_iff_hasText, ← Bool.and_eq_true] at h
    rw [listing, displayValue, if_neg h]

/-- Listings do not tell values apart that look alike. -/
theorem LooksLike.displayValue_eq (h : first.LooksLike second)
    (hsensitive : first.sensitive = second.sensitive) :
    first.displayValue = second.displayValue := by
  rcases h with hvalue | ⟨htrue, hfirst, hsecond⟩
  · unfold displayValue isFilled
    rw [hsensitive, hvalue]
  · unfold displayValue
    rw [← hsensitive, htrue, (isFilled_iff_hasText first).mpr hfirst,
      (isFilled_iff_hasText second).mpr hsecond]
    rfl

end Property

namespace PropertyMap

/-- Values for names, as they are given to a map at one time. -/
abbrev Mapping := List (String × Option CodeString)

/-- The map after it was given the values of mappings. -/
def after (map : PropertyMap) (history : List Mapping) : PropertyMap :=
  history.foldl setValues map

/-- What a history makes of a name: its last definition, with the value that any mapping gave to
it last. -/
def current? (definitions : List Property) (history : List Mapping) (name : String) :
    Option Property :=
  (Fields.last? (definitions.map fun property => (property.name, property)) name).map
    fun definition => { definition with
      value := (Fields.last? history.flatten name).getD definition.value }

variable {map : PropertyMap} {definitions : List Property} {history : List Mapping}
  {name other : String} {value : Option CodeString} {property : Property}

/-! ## One assignment -/

theorem names_set (map : PropertyMap) (name : String) (value : Option CodeString) :
    Fields.names (map.set name value).entries = Fields.names map.entries := by
  unfold Fields.names set
  rw [List.map_map]
  refine List.map_congr_left fun entry _ => ?_
  rw [Function.comp_apply]
  split <;> rfl

theorem get?_set (map : PropertyMap) (name : String) (value : Option CodeString) (other : String) :
    Fields.get? (map.set name value).entries other =
      (Fields.get? map.entries other).map fun property =>
        if other = name then { property with value := value } else property := by
  obtain ⟨entries⟩ := map
  unfold Fields.get? set
  induction entries with
  | nil => rfl
  | cons entry entries ih =>
      obtain ⟨first, property⟩ := entry
      have hhead : (if first = name then (first, { property with value := value })
          else (first, property)) =
          (first, if first = name then { property with value := value } else property) := by
        split <;> rfl
      rw [List.map_cons, hhead, List.lookup_cons, List.lookup_cons]
      by_cases h : other = first
      · subst h
        rw [beq_self_eq_true]
        rfl
      · rw [beq_eq_false_iff_ne.mpr h]
        exact ih

theorem set_of_not_mem (h : name ∉ Fields.names map.entries) (value : Option CodeString) :
    map.set name value = map := by
  have hsame : ∀ entry ∈ map.entries, (if entry.1 = name then
      (entry.1, { entry.2 with value := value }) else entry) = entry := by
    intro entry hentry
    refine if_neg ?_
    rintro rfl
    exact h (List.mem_map_of_mem hentry)
  unfold set
  rw [List.map_congr_left hsame, List.map_id']

/-! ## Histories -/

theorem after_eq_setValues (map : PropertyMap) (history : List Mapping) :
    map.after history = map.setValues history.flatten :=
  List.foldl_flatten.symm

theorem names_setValues (map : PropertyMap) (values : Mapping) :
    Fields.names (map.setValues values).entries = Fields.names map.entries := by
  induction values using List.reverseRecOn with
  | nil => rfl
  | append_singleton values pair ih =>
      rw [setValues, List.foldl_concat, names_set]
      exact ih

/-- After many assignments the one that came last counts. -/
theorem get?_setValues (map : PropertyMap) (values : Mapping) (name : String) :
    Fields.get? (map.setValues values).entries name =
      (Fields.get? map.entries name).map fun property => { property with
        value := (Fields.last? values name).getD property.value } := by
  induction values using List.reverseRecOn with
  | nil => exact Option.map_id'.symm
  | append_singleton values pair ih =>
      obtain ⟨given, value⟩ := pair
      have hlast : Fields.get? (map.setValues (values ++ [(given, value)])).entries name =
          (Fields.get? (map.setValues values).entries name).map fun property =>
            if name = given then { property with value := value } else property := by
        rw [setValues, List.foldl_concat, get?_set]
        rfl
      rw [hlast, ih, Option.map_map]
      by_cases h : name = given
      · subst h
        rw [Fields.last?_concat_self]
        exact congrArg (Option.map · _) (funext fun property => if_pos rfl)
      · rw [Fields.last?_concat_of_ne h]
        exact congrArg (Option.map · _) (funext fun property => if_neg h)

/-- Values for names that are not there change nothing. -/
theorem setValues_filter (map : PropertyMap) (values : Mapping) :
    map.setValues (values.filter fun pair => pair.1 ∈ Fields.names map.entries) =
      map.setValues values := by
  induction values generalizing map with
  | nil => rfl
  | cons pair values ih =>
      have hnext := ih (map.set pair.1 pair.2)
      rw [names_set] at hnext
      by_cases h : pair.1 ∈ Fields.names map.entries
      · rw [List.filter_cons_of_pos (by simpa using h)]
        exact hnext
      · rw [List.filter_cons_of_neg (by simpa using h), setValues, setValues, List.foldl_cons,
          set_of_not_mem h]
        exact ih map

/-! ## The state after a history -/

theorem names_ofDefinitions (definitions : List Property) :
    Fields.names (ofDefinitions definitions).entries =
      (definitions.map Property.name).eraseDups := by
  rw [ofDefinitions, Fields.names_ofList, List.map_map]
  rfl

theorem get?_after (definitions : List Property) (history : List Mapping) (name : String) :
    Fields.get? ((ofDefinitions definitions).after history).entries name =
      current? definitions history name := by
  rw [after_eq_setValues, get?_setValues, ofDefinitions, Fields.get?_ofList]
  rfl

theorem name_of_current? (h : current? definitions history name = some property) :
    property.name = name := by
  obtain ⟨definition, hdefinition, rfl⟩ := Option.map_eq_some_iff.mp h
  obtain ⟨found, -, heq⟩ := List.mem_map.mp (Fields.mem_of_last? hdefinition)
  cases heq
  rfl

theorem isSome_current?_iff (definitions : List Property) (history : List Mapping)
    (name : String) : (current? definitions history name).isSome = true ↔
      name ∈ definitions.map Property.name := by
  rw [current?, Option.isSome_map, Fields.isSome_last?_iff, List.map_map]
  rfl

/-- The properties in the order of their names. -/
theorem properties_after (definitions : List Property) (history : List Mapping) :
    ((ofDefinitions definitions).after history).properties =
      (definitions.map Property.name).eraseDups.filterMap (current? definitions history) := by
  have hnames : Fields.names ((ofDefinitions definitions).after history).entries =
      (definitions.map Property.name).eraseDups := by
    rw [after_eq_setValues, names_setValues, names_ofDefinitions]
  have hnodup : (Fields.names ((ofDefinitions definitions).after history).entries).Nodup := by
    rw [after_eq_setValues, names_setValues]
    exact Fields.nodup_names_ofList _
  rw [properties, Fields.map_snd_eq_filterMap_get? hnodup, hnames]
  exact List.filterMap_congr fun name _ => get?_after definitions history name

theorem mem_properties_after_iff :
    property ∈ ((ofDefinitions definitions).after history).properties ↔
      current? definitions history property.name = some property := by
  rw [properties_after, List.mem_filterMap]
  constructor
  · rintro ⟨name, -, h⟩
    rw [name_of_current? h]
    exact h
  · intro h
    have hdefined := isSome_current?_iff definitions history property.name
    rw [h] at hdefined
    exact ⟨property.name, List.mem_eraseDups.mpr (hdefined.mp rfl), h⟩

theorem map_name_properties_after (definitions : List Property) (history : List Mapping) :
    ((ofDefinitions definitions).after history).properties.map Property.name =
      (definitions.map Property.name).eraseDups := by
  have hname : ∀ name ∈ (definitions.map Property.name).eraseDups,
      (current? definitions history name).map Property.name = some name := by
    intro name hmem
    obtain ⟨property, h⟩ := Option.isSome_iff_exists.mp
      ((isSome_current?_iff definitions history name).mpr (List.mem_eraseDups.mp hmem))
    rw [h, Option.map_some, name_of_current? h]
  rw [properties_after, List.map_filterMap]
  exact (List.filterMap_eq_map_iff_forall_eq_some.mpr hname).trans (List.map_id' _)

theorem mem_missing_iff : name ∈ map.missing ↔ ∃ property ∈ map.properties,
    property.name = name ∧ property.required = true ∧
      (property.value = none ∨ property.value = some "") := by
  simp only [missing, List.mem_map, List.mem_filter, Bool.and_eq_true, Bool.not_eq_true',
    Property.isFilled_eq_false_iff]
  constructor
  · rintro ⟨property, ⟨hmem, h⟩, hname⟩
    exact ⟨property, hmem, hname, h⟩
  · rintro ⟨property, hmem, hname, h⟩
    exact ⟨property, ⟨hmem, h⟩, hname⟩

theorem forall₂_isShownAs_listings (map : PropertyMap) :
    List.Forall₂ Property.IsShownAs map.properties map.listings := by
  rw [listings, List.forall₂_map_right_iff, List.forall₂_same]
  exact fun property _ => property.isShownAs_listing

/-- A name is listed in the same way after two histories that leave like values. -/
theorem map_listing_congr {other : List Mapping}
    (h : Option.Rel Property.LooksLike (current? definitions history name)
      (current? definitions other name)) :
    (current? definitions other name).map Property.listing =
      (current? definitions history name).map Property.listing := by
  unfold current? at h ⊢
  revert h
  cases Fields.last? (definitions.map fun property => (property.name, property)) name with
  | none => exact fun _ => rfl
  | some definition =>
      rintro ⟨hlooks⟩
      have hvalue := hlooks.displayValue_eq rfl
      simp only [Option.map_some, Property.listing, hvalue]

/-- After any history the names stand in the order in which they were first defined, each with its
last definition and the value that was given to it last; values for other names change nothing.
The names that are missing are the required ones without a value or with an empty one.  A listing
shows the mask in place of the value of a sensitive property that has text, so two histories have
the same listings if they leave the same values, but for the texts of sensitive properties. -/
theorem histories_keep_names_and_last_values (definitions : List Property)
    (history : List Mapping) :
    let start := ofDefinitions definitions
    let map := start.after history
    map.properties.map Property.name = (definitions.map Property.name).eraseDups ∧
    (∀ property, property ∈ map.properties ↔
      current? definitions history property.name = some property) ∧
    (∀ name, map.value? name = (current? definitions history name).bind Property.value) ∧
    start.after (history.map fun values =>
      values.filter fun pair => pair.1 ∈ definitions.map Property.name) = map ∧
    map.missing.Sublist (map.properties.map Property.name) ∧
    (∀ name, name ∈ map.missing ↔ ∃ property, current? definitions history name = some property ∧
      property.required = true ∧ (property.value = none ∨ property.value = some "")) ∧
    List.Forall₂ Property.IsShownAs map.properties map.listings ∧
    ∀ other : List Mapping,
      (∀ name ∈ definitions.map Property.name, Option.Rel Property.LooksLike
        (current? definitions history name) (current? definitions other name)) →
      (start.after other).listings = map.listings := by
  intro start map
  refine ⟨map_name_properties_after definitions history, fun _ => mem_properties_after_iff,
    fun name => ?_, ?_, ?_, fun name => ?_, forall₂_isShownAs_listings map, fun other h => ?_⟩
  · rw [value?, get?_after]
  · have hknown : ∀ pair : String × Option CodeString,
        decide (pair.1 ∈ definitions.map Property.name) =
        decide (pair.1 ∈ Fields.names start.entries) := by
      intro pair
      rw [decide_eq_decide, names_ofDefinitions, List.mem_eraseDups]
    simp only [hknown]
    rw [after_eq_setValues, ← List.filter_flatten, setValues_filter]
    exact (after_eq_setValues start history).symm
  · exact List.filter_sublist.map Property.name
  · rw [mem_missing_iff]
    constructor
    · rintro ⟨property, hmem, rfl, h⟩
      exact ⟨property, mem_properties_after_iff.mp hmem, h⟩
    · rintro ⟨property, hcurrent, h⟩
      have hname := name_of_current? hcurrent
      rw [← hname] at hcurrent
      exact ⟨property, mem_properties_after_iff.mpr hcurrent, hname, h⟩
  · rw [listings, listings, properties_after, properties_after, List.map_filterMap,
      List.map_filterMap]
    exact List.filterMap_congr fun name hname =>
      map_listing_congr (h name (List.mem_eraseDups.mp hname))

/-- The listing tells neither of the two passwords, although one of them was given first and taken
back; the last definition of the repeated name counts, in its first place. -/
theorem histories_with_other_password_are_listed_alike :
    let definitions := [Property.mk "User" true false none, ⟨"Pass", false, false, some "old"⟩,
      ⟨"Token", true, true, some "abc"⟩, ⟨"Pass", true, true, none⟩]
    let history : List Mapping := [[("Pass", some "first"), ("Other", some "x")], [("Pass", none)],
      [("User", some "me"), ("Token", some ""), ("Pass", some "second")]]
    let other : List Mapping :=
      [[("Token", some "")], [("Pass", some "third"), ("User", some "me")]]
    let map := (ofDefinitions definitions).after history
    map.properties.map Property.name = ["User", "Pass", "Token"] ∧
      map.missing = ["Token"] ∧
      ((ofDefinitions definitions).after other).listings = map.listings := by
  intro definitions history other map
  obtain ⟨hnames, -, -, -, -, -, -, hlistings⟩ :=
    histories_keep_names_and_last_values definitions history
  refine ⟨hnames.trans (by decide), by decide, hlistings other ?_⟩
  have hsame : ∀ name ∈ ["User", "Token"],
      current? definitions history name = current? definitions other name := by decide
  have hpass : current? definitions history "Pass" = some ⟨"Pass", true, true, some "second"⟩ ∧
      current? definitions other "Pass" = some ⟨"Pass", true, true, some "third"⟩ := by decide
  intro name hname
  by_cases h : name = "Pass"
  · rw [h, hpass.1, hpass.2]
    exact .some (.inr ⟨rfl, ⟨"second", rfl, by decide⟩, "third", rfl, by decide⟩)
  · have hother : name ∈ ["User", "Token"] := by
      simpa [definitions, h] using hname
    rw [hsame name hother]
    cases current? definitions other name with
    | none => exact .none
    | some property => exact .some (.inl rfl)

end PropertyMap

end QueryBridge
