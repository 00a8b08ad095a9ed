import QueryBridge.Proofs.Query.Lookup
import QueryBridge.Proofs.Template.Occurrence
import QueryBridge.Proofs.Text.Split

/-!
# Terms of a template and of its resolved query

A placeholder in the value of a term does not change how the query is cut into terms, as
long as the value bound to it holds no ampersand.  So up to the first term with a key, the
terms of the resolved query are those of the template, with each value filled in on its own.
-/

namespace QueryBridge

namespace Query

variable {parameters : Template.Parameters}

/-! ## Terms of parts -/

/-- The terms of parts, of which empty ones do not count. -/
def termsOfParts (parts : List (List Char)) : List Term :=
  (parts.filter (!·.isEmpty)).map Term.ofChars

def termsOf (text : List Char) : List Term :=
  termsOfParts (Text.splitOn '&' text)

theorem termsOfParts_cons (part : List Char) (parts : List (List Char)) :
    termsOfParts (part :: parts) = termsOfParts [part] ++ termsOfParts parts :=
  (congrArg _ (List.filter_append [part] parts)).trans List.map_append

theorem terms_eq_termsOf (query : String) : terms query = termsOf query.toList := rfl

theorem termsOf_of_not_mem {text : List Char} (h : '&' ∉ text) :
    termsOf text = termsOfParts [text] := by
  unfold termsOf
  rw [Text.splitOn_of_not_mem h]

theorem termsOf_append {first : List Char} (h : '&' ∉ first) (rest : List Char) :
    termsOf (first ++ '&' :: rest) = termsOfParts [first] ++ termsOf rest := by
  unfold termsOf
  rw [Text.splitOn_append_cons h]
  exact termsOfParts_cons first _

theorem termsOfParts_singleton {text : List Char} (h : text ≠ []) :
    termsOfParts [text] = [Term.ofChars text] := by
  cases text with
  | nil => exact absurd rfl h
  | cons c text => rfl

/-- The term with the bound values in the places of the placeholders of its value. -/
def Term.fill (parameters : Template.Parameters) (term : Term) : Term :=
  ⟨term.key, Template.filled term.value parameters⟩

theorem Term.fill_ofChars_of_mem {key : List Char} (h : '=' ∉ key) (value : List Char) :
    (Term.ofChars (key ++ '=' :: value)).fill parameters =
      Term.ofChars (key ++ '=' :: Template.fill parameters value) := by
  unfold Term.ofChars Term.fill Template.filled
  rw [Text.cutAt_append_cons h, Text.cutAt_append_cons h]
  dsimp only
  rw [String.toList_ofList]

theorem Term.fill_ofChars_of_not_mem {text : List Char} (h : '=' ∉ text) :
    (Term.ofChars text).fill parameters = Term.ofChars text := by
  unfold Term.ofChars Term.fill Template.filled
  rw [Text.cutAt_of_not_mem h]
  dsimp only
  rw [String.toList_ofList, Template.fill_nil]

/-- Filling keeps the keys, and thus which term is found. -/
theorem find?_map_fill (terms : List Term) (key : String) :
    (terms.map (Term.fill parameters)).find? (fun term => foldKey term.key == foldKey key) =
      (terms.find? fun term => foldKey term.key == foldKey key).map (Term.fill parameters) := by
  rw [List.find?_map]
  rfl

end Query

namespace Template

open Query (termsOf termsOfParts)

variable {parameters : Parameters}

/-! ## Placeholders in values -/

namespace Occurrence

/-- The placeholder begins behind the first `=` of a term, and ends in the same term. -/
def IsInValue (occurrence : Occurrence) : Prop :=
  '=' ∈ (Text.splitOn '&' occurrence.before).getLastD [] ∧ '&' ∉ occurrence.source

/-- A term with the key has ended before the placeholder. -/
def IsBehind (occurrence : Occurrence) (key : String) : Prop :=
  ∃ term ∈ termsOfParts (Text.splitOn '&' occurrence.before).dropLast, term.HasKey key

instance (occurrence : Occurrence) : Decidable occurrence.IsInValue :=
  inferInstanceAs (Decidable (_ ∧ _))

instance (occurrence : Occurrence) (key : String) : Decidable (occurrence.IsBehind key) :=
  inferInstanceAs (Decidable (∃ term ∈ _, _))

theorem not_isBehind_of_not_mem {occurrence : Occurrence} (h : '&' ∉ occurrence.before)
    (key : String) : ¬ occurrence.IsBehind key := by
  rintro ⟨term, hterm, -⟩
  rw [Text.splitOn_of_not_mem h] at hterm
  exact absurd hterm List.not_mem_nil

theorem mem_before_of_isInValue {occurrence : Occurrence} (h : '&' ∉ occurrence.before)
    (hvalue : occurrence.IsInValue) : '=' ∈ occurrence.before := by
  have hlast := hvalue.1
  rw [Text.splitOn_of_not_mem h] at hlast
  exact hlast

/-- The occurrence in a text that has another part in front. -/
def behindPart (first : List Char) (occurrence : Occurrence) : Occurrence :=
  { occurrence with before := first ++ '&' :: occurrence.before }

theorem isInValue_behindPart {first : List Char} (h : '&' ∉ first) {occurrence : Occurrence} :
    (occurrence.behindPart first).IsInValue ↔ occurrence.IsInValue := by
  unfold IsInValue behindPart
  dsimp only
  rw [Text.splitOn_append_cons h]
  cases hparts : Text.splitOn '&' occurrence.before with
  | nil => exact absurd hparts (Text.splitOn_ne_nil '&' occurrence.before)
  | cons part parts => rfl

theorem isBehind_behindPart {first : List Char} (h : '&' ∉ first) {occurrence : Occurrence}
    {key : String} :
    (occurrence.behindPart first).IsBehind key ↔
      (∃ term ∈ termsOfParts [first], term.HasKey key) ∨ occurrence.IsBehind key := by
  unfold IsBehind behindPart
  dsimp only
  rw [Text.splitOn_append_cons h,
    List.dropLast_cons_of_ne_nil (Text.splitOn_ne_nil '&' occurrence.before),
    Query.termsOfParts_cons]
  simp only [List.mem_append, or_and_right, exists_or]

end Occurrence

end Template

namespace Query

open Template (Occurrence occurrencesFrom pieces namesOf)

variable {parameters : Template.Parameters}

/-! ## Filling one part -/

theorem length_lt_of_mem {before key value : List Char} (h : before <+: key ++ '=' :: value)
    (hbefore : '=' ∈ before) (hkey : '=' ∉ key) : key.length < before.length := by
  by_contra hlength
  have hbegins : before <+: key :=
    List.prefix_of_prefix_length_le h (List.prefix_append key _) (by omega)
  exact hkey (hbegins.subset hbefore)

/-- A part with all its placeholders behind its first `=` is filled in behind it. -/
theorem fill_part (parameters : Template.Parameters) {part : List Char}
    (h : ∀ occurrence ∈ occurrencesFrom [] part, '=' ∈ occurrence.before) :
    Term.ofChars (Template.fill parameters part) = (Term.ofChars part).fill parameters ∧
      (Template.fill parameters part = [] ↔ part = []) ∧
      namesOf (Term.ofChars part).value.toList ⊆ namesOf part := by
  by_cases hequals : '=' ∈ part
  · -- every placeholder begins behind the first `=`, so the key is taken as it is
    obtain ⟨key, value, rfl, hkey⟩ := List.eq_append_cons_of_mem hequals
    have hcut : key ++ ['='] ++ value = key ++ '=' :: value := by simp
    have hlate : ∀ occurrence ∈ occurrencesFrom [] (key ++ ['='] ++ value),
        (key ++ ['=']).length ≤ occurrence.before.length := by
      intro occurrence hoccurrence
      rw [hcut] at hoccurrence
      rw [List.length_append]
      exact length_lt_of_mem (Template.before_isPrefix hoccurrence) (h occurrence hoccurrence) hkey
    obtain ⟨hpieces, hfill⟩ := Template.fill_append_of_late parameters hlate
    rw [hcut] at hpieces hfill
    rw [hfill, show key ++ ['='] ++ Template.fill parameters value =
      key ++ '=' :: Template.fill parameters value by simp]
    refine ⟨(Term.fill_ofChars_of_mem hkey value).symm, by simp, ?_⟩
    unfold Term.ofChars namesOf
    rw [Text.cutAt_append_cons hkey, hpieces, List.filterMap_append]
    dsimp only
    rw [String.toList_ofList]
    exact List.subset_append_right _ _
  · -- without an `=` there is no placeholder at all
    have hlate : ∀ occurrence ∈ occurrencesFrom [] (part ++ []),
        part.length ≤ occurrence.before.length := by
      intro occurrence hoccurrence
      rw [List.append_nil] at hoccurrence
      have hbegins := Template.before_isPrefix hoccurrence
      exact absurd (hbegins.subset (h occurrence hoccurrence)) hequals
    have hfill := (Template.fill_append_of_late parameters hlate).2
    rw [List.append_nil, Template.fill_nil, List.append_nil] at hfill
    rw [hfill]
    refine ⟨(Term.fill_ofChars_of_not_mem hequals).symm, Iff.rfl, ?_⟩
    unfold Term.ofChars namesOf
    rw [Text.cutAt_of_not_mem hequals]
    dsimp only
    rw [String.toList_ofList, Template.pieces_nil]
    exact List.nil_subset _

theorem termsOfParts_fill_part {part : List Char}
    (h : ∀ occurrence ∈ occurrencesFrom [] part, '=' ∈ occurrence.before) :
    termsOfParts [Template.fill parameters part] =
      (termsOfParts [part]).map (Term.fill parameters) := by
  obtain ⟨hterm, hempty, -⟩ := fill_part parameters h
  by_cases hpart : part = []
  · rw [hempty.mpr hpart, hpart]
    rfl
  · rw [termsOfParts_singleton hpart, termsOfParts_singleton (mt hempty.mp hpart), hterm]
    rfl

theorem namesOf_subset_of_mem {part : List Char}
    (h : ∀ occurrence ∈ occurrencesFrom [] part, '=' ∈ occurrence.before) {term : Term}
    (hterm : term ∈ termsOfParts [part]) : namesOf term.value.toList ⊆ namesOf part := by
  by_cases hpart : part = []
  · rw [hpart] at hterm
    exact absurd hterm List.not_mem_nil
  · rw [termsOfParts_singleton hpart, List.mem_singleton] at hterm
    rw [hterm]
    exact (fill_part [] h).2.2

theorem not_mem_fill {part : List Char} (hpart : '&' ∉ part)
    (h : ∀ occurrence ∈ occurrencesFrom [] part, '&' ∉ occurrence.value parameters) :
    '&' ∉ Template.fill parameters part := by
  intro hmem
  rcases Template.mem_fill hmem with hmem | ⟨occurrence, hoccurrence, hmem⟩
  · exact hpart hmem
  · exact h occurrence hoccurrence hmem

/-! ## Filling one part after another -/

/-- A text that is a single part has nothing in front of a placeholder that could end a part. -/
theorem inside_single_part {part : List Char} (hpart : '&' ∉ part)
    (h : ∀ occurrence ∈ occurrencesFrom [] part, '&' ∉ occurrence.before →
      occurrence.IsInValue ∧ '&' ∉ occurrence.value parameters) :
    ∀ occurrence ∈ occurrencesFrom [] part,
      '=' ∈ occurrence.before ∧ '&' ∉ occurrence.value parameters := by
  intro occurrence hoccurrence
  have hbefore : '&' ∉ occurrence.before :=
    fun hmem => hpart ((Template.before_isPrefix hoccurrence).subset hmem)
  obtain ⟨hvalue, hampersand⟩ := h occurrence hoccurrence hbefore
  exact ⟨Occurrence.mem_before_of_isInValue hbefore hvalue, hampersand⟩

/-- A text whose placeholders stand in values, as far as they begin in its first part, is cut
behind that part, and so is the text with the values filled in. -/
theorem cut_first_part {first rest : List Char} (hfirst : '&' ∉ first)
    (h : ∀ occurrence ∈ occurrencesFrom [] (first ++ '&' :: rest), '&' ∉ occurrence.before →
      occurrence.IsInValue ∧ '&' ∉ occurrence.value parameters) :
    termsOf (Template.fill parameters (first ++ '&' :: rest)) =
        termsOfParts [Template.fill parameters first] ++ termsOf (Template.fill parameters rest) ∧
      namesOf (first ++ '&' :: rest) = namesOf first ++ namesOf rest ∧
      (∀ occurrence ∈ occurrencesFrom [] first, '=' ∈ occurrence.before) ∧
      ∀ occurrence ∈ occurrencesFrom [] rest,
        occurrence.behindPart first ∈ occurrencesFrom [] (first ++ '&' :: rest) := by
  -- a placeholder that begins before the cut has only the first part in front
  have hends : ∀ occurrence ∈ occurrencesFrom [] (first ++ '&' :: rest),
      occurrence.before.length ≤ first.length → '&' ∉ occurrence.source := by
    intro occurrence hoccurrence hlength
    have hbegins : occurrence.before <+: first :=
      List.prefix_of_prefix_length_le (Template.before_isPrefix hoccurrence)
        (List.prefix_append first _) hlength
    exact (h occurrence hoccurrence fun hmem => hfirst (hbegins.subset hmem)).1.2
  obtain ⟨hpieces, hoccurrences⟩ :=
    Template.pieces_append_ampersand [] first rest (by simpa using hends)
  have hinside := inside_single_part hfirst fun occurrence hoccurrence hbefore =>
    h occurrence (hoccurrences ▸ List.mem_append_left _ hoccurrence) hbefore
  refine ⟨?_, ?_, fun occurrence hoccurrence => (hinside occurrence hoccurrence).1, ?_⟩
  · have hampersand : '&' ∉ Template.fill parameters first :=
      not_mem_fill hfirst fun occurrence hoccurrence => (hinside occurrence hoccurrence).2
    rw [Template.fill_append_ampersand first rest hends, termsOf_append hampersand]
  · unfold namesOf
    rw [hpieces, List.filterMap_append, List.filterMap_cons_none rfl]
  · intro occurrence hoccurrence
    have hbehind := Template.occurrencesFrom_append_before (first ++ ['&']) [] rest
    rw [List.append_nil] at hbehind
    rw [hoccurrences, List.nil_append, hbehind]
    refine List.mem_append_right _ (List.mem_map.mpr ⟨occurrence, hoccurrence, ?_⟩)
    rw [List.append_assoc]
    rfl

/-- If all placeholders stand in values and have values without an ampersand, the terms of the
resolved text are those of the text, each filled in on its own. -/
theorem termsOf_fill (text : List Char)
    (h : ∀ occurrence ∈ occurrencesFrom [] text,
      occurrence.IsInValue ∧ '&' ∉ occurrence.value parameters) :
    termsOf (Template.fill parameters text) = (termsOf text).map (Term.fill parameters) ∧
      ∀ term ∈ termsOf text, namesOf term.value.toList ⊆ namesOf text := by
  induction text using Text.induction_on_parts '&' with
  | single part hpart =>
      have hinside := inside_single_part hpart fun occurrence hoccurrence _ =>
        h occurrence hoccurrence
      have hequals : ∀ occurrence ∈ occurrencesFrom [] part, '=' ∈ occurrence.before :=
        fun occurrence hoccurrence => (hinside occurrence hoccurrence).1
      rw [termsOf_of_not_mem hpart,
        termsOf_of_not_mem (not_mem_fill hpart fun occurrence hoccurrence =>
          (hinside occurrence hoccurrence).2)]
      exact ⟨termsOfParts_fill_part hequals, fun term hterm => namesOf_subset_of_mem hequals hterm⟩
  | more first rest hfirst ih =>
      obtain ⟨hterms, hnames, hequals, hrestPart⟩ :=
        cut_first_part hfirst fun occurrence hoccurrence _ => h occurrence hoccurrence
      obtain ⟨hrest, hrestNames⟩ := ih fun occurrence hoccurrence => by
        rw [← Occurrence.isInValue_behindPart hfirst]
        exact h _ (hrestPart occurrence hoccurrence)
      rw [hterms, hnames, termsOf_append hfirst, termsOfParts_fill_part hequals, hrest,
        List.map_append]
      refine ⟨rfl, fun term hterm => ?_⟩
      rcases List.mem_append.mp hterm with hterm | hterm
      · exact List.Subset.trans (namesOf_subset_of_mem hequals hterm)
          (List.subset_append_left _ _)
      · exact List.Subset.trans (hrestNames term hterm) (List.subset_append_right _ _)

/-! ## Filling up to the first term with a key -/

/-- The first term of a text with the key. -/
def findTerm (key : String) (terms : List Term) : Option Term :=
  terms.find? fun term => foldKey term.key == foldKey key

theorem findTerm_append (key : String) (first rest : List Term) :
    findTerm key (first ++ rest) = (findTerm key first).or (findTerm key rest) :=
  List.find?_append

theorem isFirst_iff {query key : String} {term : Term} :
    IsFirst query key term ↔ findTerm key (termsOf query.toList) = some term := by
  unfold IsFirst findTerm Term.HasKey
  rw [List.find?_eq_some_iff_append]
  simp [terms_eq_termsOf]

theorem findTerm_fill_part (parameters : Template.Parameters) {part : List Char} (key : String)
    (h : ∀ occurrence ∈ occurrencesFrom [] part, '=' ∈ occurrence.before) :
    findTerm key (termsOfParts [Template.fill parameters part]) =
        (findTerm key (termsOfParts [part])).map (Term.fill parameters) ∧
      ∀ term, findTerm key (termsOfParts [part]) = some term →
        namesOf term.value.toList ⊆ namesOf part := by
  constructor
  · rw [termsOfParts_fill_part h]
    exact find?_map_fill _ key
  · intro term hterm
    exact namesOf_subset_of_mem h (List.mem_of_find?_eq_some hterm)

/-- If every placeholder up to the first term with a key stands in a value and has a value
without an ampersand, then that term of the resolved query is the template's, filled in. -/
theorem findTerm_fill {key : String} (text : List Char)
    (h : ∀ occurrence ∈ occurrencesFrom [] text, ¬ occurrence.IsBehind key →
      occurrence.IsInValue ∧ '&' ∉ occurrence.value parameters) :
    findTerm key (termsOf (Template.fill parameters text)) =
        (findTerm key (termsOf text)).map (Term.fill parameters) ∧
      ∀ term, findTerm key (termsOf text) = some term →
        namesOf term.value.toList ⊆ namesOf text := by
  -- no term has ended before a placeholder of the first part
  have hinside : ∀ occurrence ∈ occurrencesFrom [] text, '&' ∉ occurrence.before →
      occurrence.IsInValue ∧ '&' ∉ occurrence.value parameters :=
    fun occurrence hoccurrence hbefore =>
      h occurrence hoccurrence (Occurrence.not_isBehind_of_not_mem hbefore key)
  induction text using Text.induction_on_parts '&' with
  | single part hpart =>
      have hpart' := inside_single_part hpart hinside
      rw [termsOf_of_not_mem hpart,
        termsOf_of_not_mem (not_mem_fill hpart fun occurrence hoccurrence =>
          (hpart' occurrence hoccurrence).2)]
      exact findTerm_fill_part parameters key fun occurrence hoccurrence =>
        (hpart' occurrence hoccurrence).1
  | more first rest hfirst ih =>
      obtain ⟨hterms, hnames, hequals, hrestPart⟩ := cut_first_part hfirst hinside
      obtain ⟨hfindFirst, hnamesFirst⟩ := findTerm_fill_part parameters key hequals
      rw [hterms, hnames, termsOf_append hfirst, findTerm_append, findTerm_append, hfindFirst]
      cases hfound : findTerm key (termsOfParts [first]) with
      | some term =>
          -- the term is in the first part: what follows does not matter
          refine ⟨rfl, ?_⟩
          rintro _ ⟨⟩
          exact List.Subset.trans (hnamesFirst term hfound) (List.subset_append_left _ _)
      | none =>
          -- the first part has no term with the key, so the condition holds of the rest
          have hrest : ∀ occurrence ∈ occurrencesFrom [] rest, ¬ occurrence.IsBehind key →
              occurrence.IsInValue ∧ '&' ∉ occurrence.value parameters := by
            intro occurrence hoccurrence hbehind
            rw [← Occurrence.isInValue_behindPart hfirst]
            refine h _ (hrestPart occurrence hoccurrence) ?_
            rw [Occurrence.isBehind_behindPart hfirst]
            rintro (⟨term, hterm, hkey⟩ | hbehind')
            · have hother := List.find?_eq_none.mp hfound term hterm
              exact hother (by simpa [Term.HasKey] using hkey)
            · exact hbehind hbehind'
          obtain ⟨hfindRest, hnamesRest⟩ := ih hrest fun occurrence hoccurrence hbefore =>
            hrest occurrence hoccurrence (Occurrence.not_isBehind_of_not_mem hbefore key)
          rw [hfindRest]
          refine ⟨rfl, fun term hterm => ?_⟩
          exact List.Subset.trans (hnamesRest term hterm) (List.subset_append_right _ _)

end Query

end QueryBridge
