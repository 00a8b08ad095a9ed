import Mathlib.Data.List.Forall2
import QueryBridge.Proofs.Text.Blank
import QueryBridge.Proofs.Text.Percent
import QueryBridge.Proofs.Text.Split
import QueryBridge.Query

/-!
# What escaping keeps

An escaped query has the terms of the query, one by one: neither a key nor a value gains a
separator, and a term without an equals sign or with a blank key gets one and stays a term.
A value is read back from its percent-encoding.
-/

namespace QueryBridge.Query

/-- The key of the escaped term is the trimmed key with `+` for each space, and its value the
percent-encoding of the value. -/
structure Term.IsEscapedAs (term escaped : Term) : Prop where
  key_trimmed : ∃ inner, Text.IsTrimmed term.key.toList inner ∧
    escaped.key.toList = inner.map fun c => if c = ' ' then '+' else c
  value_encoded : Text.Percent.IsEncoded escaped.value.toList
  value_decoded :
    Text.Utf8.decode? (Text.Percent.decodeBytes escaped.value.toList) = some term.value.toList

/-- The term that the escaped form of a term is read as. -/
def Term.escaped (term : Term) : Term :=
  ⟨escapeKey term.key, Text.Percent.encode term.value⟩

theorem Term.isEscapedAs_escaped (term : Term) : term.IsEscapedAs term.escaped := by
  constructor
  · refine ⟨Text.trimChars term.key.toList, Text.isTrimmed_trimChars _, ?_⟩
    rw [escaped, escapeKey, String.toList_ofList]
  · rw [escaped, Text.Percent.encode, String.toList_ofList]
    exact Text.Percent.isEncoded_encodeChars _
  · rw [escaped, Text.Percent.decodeBytes_encode, Text.Utf8.decode?_encode]

/-! ## Separators -/

/-- A key loses blanks only, and gets a `+` for each space. -/
theorem mem_escapeKey {key : String} {c : Char} (hc : c ∈ key.toList)
    (hblank : Text.isBlank c = false) : c ∈ (escapeKey key).toList := by
  obtain ⟨before, after, hbefore, hafter, htext⟩ := (Text.isTrimmed_trimChars key.toList).surrounded
  have hinner : c ∈ Text.trimChars key.toList := by
    have hrun : ∀ run, Text.IsBlankRun run → c ∉ run := by
      intro run hblanks hmem
      rw [hblanks c hmem] at hblank
      cases hblank
    rw [htext, List.mem_append, List.mem_append] at hc
    rcases hc with (hc | hc) | hc
    · exact absurd hc (hrun before hbefore)
    · exact hc
    · exact absurd hc (hrun after hafter)
  rw [escapeKey, String.toList_ofList, List.mem_map]
  refine ⟨c, hinner, ?_⟩
  rw [if_neg]
  rintro rfl
  exact absurd hblank (by decide)

theorem not_mem_escapeKey {key : String} {separator : Char} (hkey : separator ∉ key.toList)
    (hplus : separator ≠ '+') : separator ∉ (escapeKey key).toList := by
  rw [escapeKey, String.toList_ofList, List.mem_map]
  rintro ⟨c, hc, heq⟩
  obtain ⟨before, after, -, -, htext⟩ := (Text.isTrimmed_trimChars key.toList).surrounded
  split at heq
  · exact hplus heq.symm
  · subst heq
    refine hkey ?_
    rw [htext]
    exact List.mem_append_left _ (List.mem_append_right _ hc)

/-- A term of a query has no separator in its key, and no ampersand at all. -/
theorem not_mem_of_mem_terms {query : String} {term : Term} (h : term ∈ terms query) :
    '&' ∉ term.key.toList ∧ '=' ∉ term.key.toList := by
  obtain ⟨part, hpart, rfl⟩ := List.mem_map.mp h
  have hampersand : '&' ∉ part := Text.not_mem_of_mem_splitOn (List.mem_filter.mp hpart).1
  rw [Term.ofChars, Text.cutAt]
  dsimp only
  rw [String.toList_ofList]
  constructor
  · exact fun hmem => hampersand ((List.takeWhile_prefix _).subset hmem)
  · intro hmem
    simpa using List.mem_takeWhile_imp hmem

theorem toList_escape (term : Term) :
    term.escape.toList = (escapeKey term.key).toList ++
      '=' :: (Text.Percent.encode term.value).toList := by
  rw [Term.escape, String.toList_append, String.toList_append, List.append_assoc]
  rfl

theorem ampersand_not_mem_encode (value : String) : '&' ∉ (Text.Percent.encode value).toList := by
  rw [Text.Percent.encode, String.toList_ofList]
  exact Text.Percent.not_mem_encodeExcept (Or.inr (by decide)) (by decide) (by decide)

theorem not_mem_escape {query : String} {term : Term} (h : term ∈ terms query) :
    '&' ∉ term.escape.toList := by
  rw [toList_escape, List.mem_append, List.mem_cons]
  rintro (hkey | heq | hvalue)
  · exact not_mem_escapeKey (not_mem_of_mem_terms h).1 (by decide) hkey
  · exact absurd heq (by decide)
  · exact ampersand_not_mem_encode term.value hvalue

/-! ## The terms of an escaped query -/

theorem toList_escape_eq_intercalate (query : String) :
    (escape query).toList =
      ['&'].intercalate ((terms query).map fun term => term.escape.toList) := by
  rw [escape, String.toList_intercalate, List.map_map]
  rfl

/-- An escaped query has the escaped terms between its ampersands. -/
theorem splitOn_escape {query : String} (h : terms query ≠ []) :
    Text.splitOn '&' (escape query).toList = (terms query).map fun term => term.escape.toList := by
  have hparts : (terms query).map (fun term => term.escape.toList) ≠ [] :=
    mt List.map_eq_nil_iff.mp h
  have hseparate : ∀ part ∈ (terms query).map (fun term => term.escape.toList), '&' ∉ part := by
    intro part hpart
    obtain ⟨term, hterm, rfl⟩ := List.mem_map.mp hpart
    exact not_mem_escape hterm
  rw [toList_escape_eq_intercalate, Text.splitOn_intercalate hparts hseparate]

theorem escape_eq_empty_iff {query : String} : escape query = "" ↔ terms query = [] := by
  constructor
  · intro h
    by_contra hterms
    have hsplit := splitOn_escape hterms
    obtain ⟨term, others, hcons⟩ := List.exists_cons_of_ne_nil hterms
    rw [h, hcons, List.map_cons, toList_escape] at hsplit
    simp [Text.splitOn] at hsplit
  · intro h
    rw [escape, h]
    rfl

theorem Term.escaped_separate {query : String} {term : Term} (h : term ∈ terms query) :
    '&' ∉ term.escaped.key.toList ∧ '=' ∉ term.escaped.key.toList ∧
      '&' ∉ term.escaped.value.toList := by
  obtain ⟨hampersand, hequals⟩ := not_mem_of_mem_terms h
  exact ⟨not_mem_escapeKey hampersand (by decide), not_mem_escapeKey hequals (by decide),
    ampersand_not_mem_encode term.value⟩

theorem terms_escape (query : String) : terms (escape query) = (terms query).map Term.escaped := by
  have hwritten : (terms query).map (fun term => term.escape.toList) =
      ((terms query).map fun term => (term.escaped.key.toList, term.escaped.value.toList)).map
        fun pair => pair.1 ++ '=' :: pair.2 := by
    rw [List.map_map]
    refine List.map_congr_left fun term _ => ?_
    rw [Function.comp_apply, toList_escape, Term.escaped]
  have hseparate : ∀ pair ∈ (terms query).map fun term =>
      (term.escaped.key.toList, term.escaped.value.toList),
      '&' ∉ pair.1 ∧ '=' ∉ pair.1 ∧ '&' ∉ pair.2 := by
    intro pair hpair
    obtain ⟨term, hterm, rfl⟩ := List.mem_map.mp hpair
    dsimp only
    exact Term.escaped_separate hterm
  calc terms (escape query)
      = (((Text.splitOn '&' (escape query).toList).filter (!·.isEmpty)).map
          (Text.cutAt '=')).map fun parts =>
            ⟨String.ofList parts.1, String.ofList parts.2⟩ := by
        rw [List.map_map]
        rfl
    _ = ((terms query).map fun term =>
          (term.escaped.key.toList, term.escaped.value.toList)).map fun parts =>
            ⟨String.ofList parts.1, String.ofList parts.2⟩ := by
        rw [toList_escape_eq_intercalate, hwritten,
          Text.map_cutAt_splitOn_intercalate (by decide) hseparate]
    _ = (terms query).map Term.escaped := by
        rw [List.map_map]
        refine List.map_congr_left fun term _ => ?_
        rw [Function.comp_apply, String.ofList_toList, String.ofList_toList]

/-- Escaping keeps every term in its place, with a key that is trimmed and a value that can be
read back. -/
theorem forall₂_isEscapedAs_terms_escape (query : String) :
    List.Forall₂ Term.IsEscapedAs (terms query) (terms (escape query)) := by
  rw [terms_escape, List.forall₂_map_right_iff, List.forall₂_same]
  intro term _
  exact term.isEscapedAs_escaped

end QueryBridge.Query
