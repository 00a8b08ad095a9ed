import QueryBridge.Query

/-!
# Looking terms up

`find?` reads the first of the terms whose keys match.
-/

namespace QueryBridge.Query

variable {query key value : String}

/-- Whether a term has the given key, regardless of case and surrounding blanks. -/
def Term.HasKey (term : Term) (key : String) : Prop :=
  foldKey term.key = foldKey key

instance (term : Term) (key : String) : Decidable (term.HasKey key) :=
  inferInstanceAs (Decidable (foldKey term.key = foldKey key))

/-- A term is the first of a query with the given key. -/
def IsFirst (query key : String) (term : Term) : Prop :=
  term.HasKey key ∧ ∃ before later, terms query = before ++ term :: later ∧
    ∀ earlier ∈ before, ¬ earlier.HasKey key

theorem find?_eq_none_iff : find? query key = none ↔ ∀ term ∈ terms query, ¬ term.HasKey key := by
  simp [find?, Term.HasKey]

theorem find?_eq_some_iff :
    find? query key = some value ↔ ∃ term, IsFirst query key term ∧ term.value = value := by
  unfold find? IsFirst Term.HasKey
  rw [Option.map_eq_some_iff]
  constructor
  · rintro ⟨term, hterm, rfl⟩
    obtain ⟨hkey, before, later, hterms, hbefore⟩ := List.find?_eq_some_iff_append.mp hterm
    refine ⟨term, ⟨by simpa using hkey, before, later, hterms, ?_⟩, rfl⟩
    simpa using hbefore
  · rintro ⟨term, ⟨hkey, before, later, hterms, hbefore⟩, rfl⟩
    refine ⟨term, List.find?_eq_some_iff_append.mpr ⟨by simpa using hkey, before, later,
      hterms, ?_⟩, rfl⟩
    simpa using hbefore

theorem find?_of_isFirst {term : Term} (h : IsFirst query key term) :
    find? query key = some term.value :=
  find?_eq_some_iff.mpr ⟨term, h, rfl⟩

end QueryBridge.Query
