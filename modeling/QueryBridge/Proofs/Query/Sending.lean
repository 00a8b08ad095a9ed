import Mathlib.Data.List.Forall2
import QueryBridge.Proofs.Query.Escaping
import QueryBridge.Proofs.Url.Resource

/-!
# What is sent of a query

An escaped query is encoded once more when it becomes part of a URL.  The second encoding leaves
the ampersands, the equals signs and the values as they are, so every term is carried in its
place.

Values have no number sign, since they are percent-encoded, but keys are only trimmed.  Behind a
number sign in a key the URL has a fragment, and no fragment is sent: the terms before this key
are carried, and the rest of the query is lost.
-/

namespace QueryBridge.Query

open QueryBridge.Text (cutAt splitOn)
open QueryBridge.Text.Percent (decodeBytes encodeChars encodeExcept)
open QueryBridge.Url (cutMark isQuerySafe isUnprintableAscii sentQuery)

/-! ## Carried terms -/

/-- A part of the query of a URL carries a term: it has the escaped key before its first equals
sign, and behind it a value from which the value of the term is read back. -/
structure Term.IsCarriedBy (term : Term) (part : List Char) : Prop where
  separated : '=' ∈ part
  key_encoded : (cutAt '=' part).1 = encodeExcept isQuerySafe (escapeKey term.key).toList
  value_decoded : Text.Utf8.decode? (decodeBytes (cutAt '=' part).2) = some term.value.toList

/-- The part that carries a term. -/
def Term.part (term : Term) : List Char :=
  encodeExcept isQuerySafe term.escape.toList

variable {query : String} {term : Term}

theorem Term.isCarriedBy_part (h : term ∈ terms query) : term.IsCarriedBy term.part := by
  have hvalue : encodeExcept isQuerySafe (Text.Percent.encode term.value).toList =
      encodeChars term.value.toList := by
    rw [Text.Percent.toList_encode]
    exact Text.Percent.encodeExcept_of_isSafe fun _ hc =>
      Url.keepsEncoded_isQuerySafe.isSafe_of_mem_encodeChars hc
  have hkey : '=' ∉ encodeExcept isQuerySafe (escapeKey term.key).toList :=
    Text.Percent.not_mem_encodeExcept
      (Or.inl (not_mem_escapeKey (not_mem_of_mem_terms h).2 (by decide))) (by decide) (by decide)
  have hpart : term.part = encodeExcept isQuerySafe (escapeKey term.key).toList ++
      '=' :: encodeChars term.value.toList := by
    rw [Term.part, toList_escape, Text.Percent.encodeExcept_append,
      Text.Percent.encodeExcept_cons_of_isSafe (by decide), hvalue]
  have hcut := Text.cutAt_append_cons hkey (encodeChars term.value.toList)
  rw [← hpart] at hcut
  constructor
  · rw [hpart]
    exact List.mem_append_right _ List.mem_cons_self
  · rw [hcut]
  · rw [hcut]
    exact Text.Percent.decode?_encodeChars term.value

theorem forall₂_isCarriedBy_part {carried : List Term} (h : carried ⊆ terms query) :
    List.Forall₂ Term.IsCarriedBy carried (carried.map Term.part) := by
  rw [List.forall₂_map_right_iff, List.forall₂_same]
  intro term hterm
  exact Term.isCarriedBy_part (h hterm)

/-! ## Number signs -/

theorem number_sign_not_mem_escape (h : '#' ∉ term.key.toList) : '#' ∉ term.escape.toList := by
  rw [toList_escape, List.mem_append, List.mem_cons]
  rintro (hkey | heq | hvalue)
  · exact not_mem_escapeKey h (by decide) hkey
  · exact absurd heq (by decide)
  · rw [Text.Percent.toList_encode] at hvalue
    exact Text.Percent.not_mem_encodeChars (by decide) (by decide) hvalue

theorem splitOn_encode (text : List Char) : splitOn '&' (encodeExcept isQuerySafe text) =
    (splitOn '&' text).map (encodeExcept isQuerySafe) :=
  Text.Percent.splitOn_encodeExcept (by decide) (by decide) (by decide) text

theorem map_encode_escape (carried : List Term) :
    (carried.map fun term => term.escape.toList).map (encodeExcept isQuerySafe) =
      carried.map Term.part := by
  rw [List.map_map]
  refine List.map_congr_left fun term _ => ?_
  rw [Function.comp_apply, Term.part]

/-- The parts of the query that is sent for a query. -/
def sentParts (query : String) : List (List Char) :=
  if terms query = [] then [] else splitOn '&' (sentQuery (escape query).toList)

/-- Without a number sign in a key, the parts carry the terms. -/
theorem sentParts_of_keys (hkeys : ∀ term ∈ terms query, '#' ∉ term.key.toList) :
    sentParts query = (terms query).map Term.part := by
  by_cases hterms : terms query = []
  · rw [sentParts, if_pos hterms, hterms]
    rfl
  · have hmark : '#' ∉ (escape query).toList := by
      intro hmem
      rw [toList_escape_eq_intercalate] at hmem
      rcases Text.mem_intercalate hmem with heq | ⟨part, hpart, hc⟩
      · exact absurd heq (by decide)
      · obtain ⟨term, hterm, rfl⟩ := List.mem_map.mp hpart
        exact number_sign_not_mem_escape (hkeys term hterm) hc
    have hkept : (cutMark '#' (escape query).toList).1 = (escape query).toList := by
      rw [Url.cutMark_of_not_mem hmark]
    rw [sentParts, if_neg hterms, sentQuery, hkept, splitOn_encode, splitOn_escape hterms,
      map_encode_escape]

section FirstSign

variable {before after : List Term}

/-- The number sign stands in the key, before the equals sign of the term. -/
theorem equals_not_mem_cutMark (hmem : term ∈ terms query) (hterm : '#' ∈ term.key.toList) :
    '=' ∉ (cutMark '#' term.escape.toList).1 := by
  obtain ⟨first, others, hfirst, hnone⟩ := List.eq_append_cons_of_mem
    (mem_escapeKey hterm (by decide))
  have hcut : (cutMark '#' term.escape.toList).1 = first := by
    rw [toList_escape, hfirst, List.append_assoc, List.cons_append, Url.cutMark_append_cons hnone]
  rw [hcut]
  intro hequals
  refine not_mem_escapeKey (not_mem_of_mem_terms hmem).2 (by decide) ?_
  rw [hfirst]
  exact List.mem_append_left _ hequals

theorem splitOn_cutMark_escape (hterms : terms query = before ++ term :: after)
    (hbefore : ∀ other ∈ before, '#' ∉ other.key.toList) (hterm : '#' ∈ term.key.toList) :
    splitOn '&' (cutMark '#' (escape query).toList).1 =
      before.map (fun other => other.escape.toList) ++ [(cutMark '#' term.escape.toList).1] := by
  have hampersand : ∀ other ∈ before ++ term :: after, '&' ∉ other.escape.toList := by
    intro other hother
    rw [← hterms] at hother
    exact not_mem_escape hother
  have hparts : ∀ part ∈ before.map (fun other => other.escape.toList),
      '&' ∉ part ∧ '#' ∉ part := by
    intro part hpart
    obtain ⟨other, hother, rfl⟩ := List.mem_map.mp hpart
    exact ⟨hampersand other (List.mem_append_left _ hother),
      number_sign_not_mem_escape (hbefore other hother)⟩
  have hpart : '&' ∉ term.escape.toList :=
    hampersand term (List.mem_append_right _ List.mem_cons_self)
  have hsign : '#' ∈ term.escape.toList := by
    rw [toList_escape]
    exact List.mem_append_left _ (mem_escapeKey hterm (by decide))
  rw [toList_escape_eq_intercalate, hterms, List.map_append, List.map_cons, Url.fst_cutMark,
    Url.fst_cutMark]
  exact Text.splitOn_takeWhile_intercalate (show '#' ≠ '&' by decide) hparts hpart hsign

/-- The first key with a number sign ends the query that is sent. -/
theorem sentParts_of_mem (hterms : terms query = before ++ term :: after)
    (hbefore : ∀ other ∈ before, '#' ∉ other.key.toList) (hterm : '#' ∈ term.key.toList) :
    ∃ rest, sentParts query = before.map Term.part ++ [rest] ∧ '=' ∉ rest := by
  have hmem : term ∈ terms query := by
    rw [hterms]
    exact List.mem_append_right _ List.mem_cons_self
  refine ⟨encodeExcept isQuerySafe (cutMark '#' term.escape.toList).1, ?_, ?_⟩
  · rw [sentParts, if_neg (List.ne_nil_of_mem hmem), sentQuery, splitOn_encode,
      splitOn_cutMark_escape hterms hbefore hterm, List.map_append, map_encode_escape,
      List.map_singleton]
  · exact Text.Percent.not_mem_encodeExcept (Or.inl (equals_not_mem_cutMark hmem hterm))
      (by decide) (by decide)

end FirstSign

/-! ## Characters -/

theorem mem_of_mem_key (h : term ∈ terms query) {c : Char} (hc : c ∈ term.key.toList) :
    c ∈ query.toList := by
  obtain ⟨part, hpart, rfl⟩ := List.mem_map.mp h
  rw [Term.ofChars, Text.cutAt] at hc
  dsimp only at hc
  rw [String.toList_ofList] at hc
  exact Text.mem_of_mem_splitOn (List.mem_filter.mp hpart).1 ((List.takeWhile_prefix _).subset hc)

/-- Escaping adds no character that cannot be printed. -/
theorem printable_escape (h : ∀ c ∈ query.toList, isUnprintableAscii c = false) :
    ∀ c ∈ (escape query).toList, isUnprintableAscii c = false := by
  intro c hc
  rw [toList_escape_eq_intercalate] at hc
  rcases Text.mem_intercalate hc with rfl | ⟨part, hpart, hc⟩
  · decide
  obtain ⟨term, hterm, rfl⟩ := List.mem_map.mp hpart
  rw [toList_escape, List.mem_append, List.mem_cons] at hc
  rcases hc with hkey | rfl | hvalue
  · by_cases hplus : c = '+'
    · rw [hplus]
      decide
    · by_contra hunprintable
      have hnone : c ∉ term.key.toList := fun hmem =>
        hunprintable (h c (mem_of_mem_key hterm hmem))
      exact not_mem_escapeKey hnone hplus hkey
  · decide
  · rw [Text.Percent.toList_encode] at hvalue
    exact Url.not_isUnprintableAscii_of_isSafe
      (Url.keepsEncoded_isQuerySafe.isSafe_of_mem_encodeChars hvalue)

end QueryBridge.Query
