import QueryBridge.Proofs.Query.Escaping
import QueryBridge.Proofs.Text.Form
import QueryBridge.Proofs.Url.Resource

/-!
# Escaped queries as forms

An escaped query has the shape of a form, with a parameter for each term.  Behind the name of a
parameter it does not become the value of this parameter: its first term does, and the terms
behind it stay parameters of their own.

Keys are not percent-encoded, so this is about keys that need no encoding.
-/

namespace QueryBridge.Query

open QueryBridge.Text.Form (parameter parameters)
open QueryBridge.Text.Percent (encodeChars isUnreserved)
open QueryBridge.Url (isQuerySafe)

/-- The key has unreserved characters only, as ASCII letters are. -/
def Term.HasPlainKey (term : Term) : Prop :=
  ∀ c ∈ term.key.toList, isUnreserved c = true

instance (term : Term) : Decidable term.HasPlainKey :=
  decidable_of_iff (term.key.toList.all isUnreserved = true) List.all_eq_true

def Term.text (term : Term) : String :=
  term.key ++ "=" ++ term.value

/-- The terms of a query, written out. -/
def termsText (query : String) : String :=
  String.intercalate "&" ((terms query).map Term.text)

variable {query : String} {term : Term}

/-! ## Plain keys -/

theorem Term.HasPlainKey.not_mem (h : term.HasPlainKey) {c : Char}
    (hc : isUnreserved c = false) : c ∉ term.key.toList := by
  intro hmem
  rw [h c hmem] at hc
  cases hc

/-- A plain key is escaped as it is. -/
theorem Term.HasPlainKey.escapeKey_eq (h : term.HasPlainKey) : escapeKey term.key = term.key := by
  have htrimmed : Text.IsTrimmed term.key.toList term.key.toList := by
    constructor
    · exact ⟨[], [], List.forall_mem_nil _, List.forall_mem_nil _, (List.append_nil _).symm⟩
    · exact fun c hc => Text.Percent.isBlank_of_isUnreserved (h c (List.mem_of_mem_head? hc))
    · exact fun c hc => Text.Percent.isBlank_of_isUnreserved (h c (List.mem_of_mem_getLast? hc))
  have hkept : ∀ c ∈ term.key.toList, (if c = ' ' then '+' else c) = c := by
    intro c hc
    rw [if_neg]
    rintro rfl
    exact h.not_mem (by decide) hc
  rw [escapeKey, htrimmed.trimChars_eq, List.map_congr_left hkept, List.map_id',
    String.ofList_toList]

theorem Term.HasPlainKey.toList_escape (h : term.HasPlainKey) :
    term.escape.toList = term.key.toList ++ '=' :: encodeChars term.value.toList := by
  rw [Query.toList_escape, h.escapeKey_eq, Text.Percent.toList_encode]

theorem Term.HasPlainKey.isQuerySafe_of_mem (h : term.HasPlainKey) :
    ∀ c ∈ term.escape.toList, isQuerySafe c = true := by
  intro c hc
  rw [h.toList_escape, List.mem_append, List.mem_cons] at hc
  rcases hc with hkey | rfl | hvalue
  · exact Url.keepsEncoded_isQuerySafe.unreserved c (h c hkey)
  · decide
  · exact Url.keepsEncoded_isQuerySafe.isSafe_of_mem_encodeChars hvalue

theorem isQuerySafe_of_mem_escape (h : ∀ term ∈ terms query, term.HasPlainKey) :
    ∀ c ∈ (escape query).toList, isQuerySafe c = true := by
  intro c hc
  rw [toList_escape_eq_intercalate] at hc
  rcases Text.mem_intercalate hc with rfl | ⟨part, hpart, hc⟩
  · decide
  · obtain ⟨term, hterm, rfl⟩ := List.mem_map.mp hpart
    exact (h term hterm).isQuerySafe_of_mem c hc

/-! ## Parameters -/

/-- An escaped term is read as a parameter with its key and its value. -/
theorem Term.HasPlainKey.parameter_escape (h : term.HasPlainKey) :
    parameter term.escape.toList = (term.key, term.value) := by
  rw [h.toList_escape, Text.Form.parameter_append_cons (h.not_mem (by decide)),
    Text.Form.decode_of_not_mem (h.not_mem (by decide)) (h.not_mem (by decide)),
    Text.Form.decode_encodeChars, String.ofList_toList, String.ofList_toList]

/-- Behind a name and an equals sign it is read as the value of this name. -/
theorem Term.HasPlainKey.parameter_query_escape (h : term.HasPlainKey) :
    parameter ("query=".toList ++ term.escape.toList) = ("query", term.text) := by
  have hplain : ∀ c, isUnreserved c = false → c ≠ '=' → c ∉ term.key.toList ++ ['='] := by
    intro c hc hequals
    rw [List.mem_append, List.mem_singleton, not_or]
    exact ⟨h.not_mem hc, hequals⟩
  have hvalue := Text.Form.decode_append_encodeChars (hplain '%' (by decide) (by decide))
    (hplain '+' (by decide) (by decide)) term.value.toList
  have htext : String.ofList (term.key.toList ++ ['='] ++ term.value.toList) = term.text := by
    rw [← String.toList_inj, String.toList_ofList, Term.text, String.toList_append,
      String.toList_append]
    rfl
  have hname : Text.Form.decode "query".toList = "query" :=
    Text.Form.decode_of_not_mem (by decide) (by decide)
  have hsplit : "query=".toList ++ term.escape.toList =
      "query".toList ++ '=' :: (term.key.toList ++ ['='] ++ encodeChars term.value.toList) := by
    rw [h.toList_escape, List.append_assoc, List.singleton_append]
    rfl
  rw [hsplit, Text.Form.parameter_append_cons (by decide), hvalue, htext, hname]

/-- Of an escaped query behind a name, the name has the first term only. -/
theorem parameters_query_escape {first : Term} {others : List Term}
    (hterms : terms query = first :: others) (h : ∀ term ∈ terms query, term.HasPlainKey) :
    parameters ("query=".toList ++ (escape query).toList) =
      ("query", first.text) :: others.map fun term => (term.key, term.value) := by
  have hparts : ∀ part ∈ ("query=".toList ++ first.escape.toList) ::
      others.map (fun term => term.escape.toList), part ≠ [] ∧ '&' ∉ part := by
    rw [List.forall_mem_cons, List.forall_mem_map]
    have hseparate : ∀ term ∈ first :: others, '&' ∉ term.escape.toList := by
      intro term hterm
      rw [← hterms] at hterm
      exact not_mem_escape hterm
    obtain ⟨hfirst, hothers⟩ := List.forall_mem_cons.mp hseparate
    refine ⟨⟨List.append_ne_nil_of_left_ne_nil (by decide) _, ?_⟩, fun term hterm => ⟨?_, ?_⟩⟩
    · rw [List.mem_append, not_or]
      exact ⟨by decide, hfirst⟩
    · rw [Query.toList_escape]
      exact List.append_ne_nil_of_right_ne_nil _ (List.cons_ne_nil _ _)
    · exact hothers term hterm
  obtain ⟨hfirst, hothers⟩ := List.forall_mem_cons.mp (hterms ▸ h)
  -- the name joins the first part; the ampersands behind it are those of the query
  calc parameters ("query=".toList ++ (escape query).toList)
      = parameters (['&'].intercalate (("query=".toList ++ first.escape.toList) ::
          others.map fun term => term.escape.toList)) := by
        rw [toList_escape_eq_intercalate, hterms, List.map_cons, Text.append_intercalate_cons]
    _ = parameter ("query=".toList ++ first.escape.toList) ::
          (others.map fun term => term.escape.toList).map parameter := by
        rw [Text.Form.parameters_intercalate (List.cons_ne_nil _ _) hparts, List.map_cons]
    _ = ("query", first.text) :: others.map fun term => (term.key, term.value) := by
        rw [hfirst.parameter_query_escape, List.map_map]
        exact congrArg (_ :: ·)
          (List.map_congr_left fun term hterm => (hothers term hterm).parameter_escape)

end QueryBridge.Query
