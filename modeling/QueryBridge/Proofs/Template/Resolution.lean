import QueryBridge.Template

/-!
# When a template resolves

A template resolves exactly if every name in it is bound; otherwise resolution names the
first one that is not.
-/

namespace QueryBridge.Template

variable {template : String} {parameters : Parameters}

/-- A value is bound to the name. -/
def IsBound (parameters : Parameters) (name : String) : Prop :=
  (parameters.lookup name).isSome = true

instance (parameters : Parameters) (name : String) : Decidable (IsBound parameters name) :=
  inferInstanceAs (Decidable ((parameters.lookup name).isSome = true))

/-- The text with the bound values in the places of its placeholders. -/
def fill (parameters : Parameters) (text : List Char) : List Char :=
  (pieces text).flatMap (Piece.fill parameters)

def filled (template : String) (parameters : Parameters) : String :=
  String.ofList (fill parameters template.toList)

theorem isNone_lookup_iff {name : String} :
    (parameters.lookup name).isNone = true ↔ ¬ IsBound parameters name := by
  unfold IsBound
  cases parameters.lookup name with
  | none => simp
  | some value => simp

theorem resolve_of_bound (h : ∀ name ∈ placeholderNames template, IsBound parameters name) :
    resolve template parameters = .ok (filled template parameters) := by
  have hnone : ((placeholderNames template).find? fun name => (parameters.lookup name).isNone) =
      none := by
    rw [List.find?_eq_none]
    intro name hname
    rw [isNone_lookup_iff]
    exact not_not_intro (h name hname)
  unfold resolve
  rw [hnone]
  rfl

/-- Resolution fails with the first name that is not bound. -/
theorem resolve_of_unbound {before later : List String} {name : String}
    (hnames : placeholderNames template = before ++ name :: later)
    (hbefore : ∀ earlier ∈ before, IsBound parameters earlier) (hname : ¬ IsBound parameters name) :
    resolve template parameters = .error ⟨name⟩ := by
  have hsome : ((placeholderNames template).find? fun name => (parameters.lookup name).isNone) =
      some name := by
    rw [List.find?_eq_some_iff_append]
    refine ⟨isNone_lookup_iff.mpr hname, before, later, hnames, fun earlier hearlier => ?_⟩
    rw [Bool.not_eq_true', ← Bool.not_eq_true, isNone_lookup_iff]
    exact not_not_intro (hbefore earlier hearlier)
  unfold resolve
  rw [hsome]

theorem exists_first_unbound (h : ¬ ∀ name ∈ placeholderNames template, IsBound parameters name) :
    ∃ before name later, placeholderNames template = before ++ name :: later ∧
      (∀ earlier ∈ before, IsBound parameters earlier) ∧ ¬ IsBound parameters name := by
  cases hfind : (placeholderNames template).find? fun name => (parameters.lookup name).isNone with
  | none =>
      refine absurd (fun name hname => ?_) h
      have hbound := List.find?_eq_none.mp hfind name hname
      rwa [isNone_lookup_iff, Classical.not_not] at hbound
  | some name =>
      obtain ⟨hname, before, later, hnames, hbefore⟩ := List.find?_eq_some_iff_append.mp hfind
      refine ⟨before, name, later, hnames, fun earlier hearlier => ?_,
        isNone_lookup_iff.mp hname⟩
      have hbound := hbefore earlier hearlier
      rwa [Bool.not_eq_true', ← Bool.not_eq_true, isNone_lookup_iff, Classical.not_not] at hbound

/-- A template that resolves has all its names bound, and its values are in their places. -/
theorem resolve_eq_ok_iff {resolved : String} :
    resolve template parameters = .ok resolved ↔
      (∀ name ∈ placeholderNames template, IsBound parameters name) ∧
        resolved = filled template parameters := by
  by_cases hbound : ∀ name ∈ placeholderNames template, IsBound parameters name
  · rw [resolve_of_bound hbound]
    constructor
    · intro h
      cases h
      exact ⟨hbound, rfl⟩
    · rintro ⟨-, rfl⟩
      rfl
  · obtain ⟨before, name, later, hnames, hbefore, hname⟩ := exists_first_unbound hbound
    rw [resolve_of_unbound hnames hbefore hname]
    constructor
    · intro h
      cases h
    · rintro ⟨h, -⟩
      exact absurd h hbound

/-- A template that does not resolve has a name that is not bound, and fails with the first. -/
theorem resolve_eq_error_iff {failure : Unbound} :
    resolve template parameters = .error failure ↔
      ∃ before later, placeholderNames template = before ++ failure.name :: later ∧
        (∀ earlier ∈ before, IsBound parameters earlier) ∧ ¬ IsBound parameters failure.name := by
  constructor
  · intro h
    have hsome : ¬ ∀ name ∈ placeholderNames template, IsBound parameters name := by
      intro hbound
      rw [resolve_of_bound hbound] at h
      cases h
    obtain ⟨before, name, later, hnames, hbefore, hname⟩ := exists_first_unbound hsome
    rw [resolve_of_unbound hnames hbefore hname] at h
    cases h
    exact ⟨before, later, hnames, hbefore, hname⟩
  · rintro ⟨before, later, hnames, hbefore, hname⟩
    exact resolve_of_unbound hnames hbefore hname

end QueryBridge.Template
