import Mathlib.Data.List.Forall2
import QueryBridge.Bridge.Adapter
import QueryBridge.Proofs.Lists
import QueryBridge.Proofs.Query.Escaping
import QueryBridge.Proofs.Text.Case
import QueryBridge.Proofs.Text.CodeString
import QueryBridge.Query.Raw

/-!
# Values found before and after escaping

Escaping rewrites the keys of a query, and a lookup folds them.  A key without inner spaces folds
as before; one with an inner space had a space in its folded form and has a plus sign afterwards,
so that neither form is that of a wanted key without these two signs.  Hence the first term with
such a key stays where it is, and its value is found encoded.

All of this is about queries from outside.  On texts their functions are those of texts.
-/

namespace QueryBridge.Query.Raw

open QueryBridge.Text (IsSign isBlankCode lowerCodes trimCodes)

variable {key wanted query escaped : CodeString}

/-! ## Folded keys -/

theorem codes_escapeKey (key : CodeString) :
    (escapeKey key).codes =
      (trimCodes key.codes).map fun code => if code = ' '.toNat then '+'.toNat else code :=
  CodeString.codes_ofCodes _

theorem isBlankCode_swap {code : Nat} (h : isBlankCode code = false) :
    isBlankCode (if code = ' '.toNat then '+'.toNat else code) = false := by
  split
  · decide
  · exact h

/-- An escaped key has no blanks at its ends. -/
theorem trimCodes_escapeKey (key : CodeString) :
    trimCodes (escapeKey key).codes = (escapeKey key).codes := by
  rw [codes_escapeKey]
  refine Text.dropEndWhile_dropWhile_of_ends ?_ ?_
  · intro code hcode
    rw [List.head?_map] at hcode
    obtain ⟨other, hother, rfl⟩ := Option.map_eq_some_iff.mp (Option.mem_def.mp hcode)
    exact isBlankCode_swap (Text.head?_dropEndWhile_dropWhile _ _ other hother)
  · intro code hcode
    rw [List.getLast?_map] at hcode
    obtain ⟨other, hother, rfl⟩ := Option.map_eq_some_iff.mp (Option.mem_def.mp hcode)
    exact isBlankCode_swap (Text.getLast?_dropEndWhile _ _ other hother)

theorem codes_escapeKey_of_not_mem (h : ' '.toNat ∉ trimCodes key.codes) :
    (escapeKey key).codes = trimCodes key.codes := by
  rw [codes_escapeKey]
  refine (List.map_congr_left fun code hcode => ?_).trans (List.map_id _)
  exact if_neg fun heq : code = ' '.toNat => h (heq ▸ hcode)

theorem foldKey_ne {c : Char} (hsign : IsSign c) (h : c.toNat ∈ trimCodes key.codes)
    (hwanted : c.toNat ∉ trimCodes wanted.codes) : foldKey key ≠ foldKey wanted := by
  intro heq
  rw [← Text.mem_lowerCodes_iff hsign, ← foldKey, heq, foldKey,
    Text.mem_lowerCodes_iff hsign] at h
  exact hwanted h

/-- Escaping a key neither makes nor breaks a match. -/
theorem foldKey_escapeKey_eq_iff (hspace : ' '.toNat ∉ trimCodes wanted.codes)
    (hplus : '+'.toNat ∉ trimCodes wanted.codes) :
    foldKey (escapeKey key) = foldKey wanted ↔ foldKey key = foldKey wanted := by
  -- an inner space becomes a plus sign, and the wanted key has neither
  by_cases hinner : ' '.toNat ∈ trimCodes key.codes
  · refine iff_of_false (foldKey_ne (c := '+') (by decide) ?_ hplus)
      (foldKey_ne (by decide) hinner hspace)
    rw [trimCodes_escapeKey, codes_escapeKey]
    exact List.mem_map.mpr ⟨' '.toNat, hinner, rfl⟩
  · rw [foldKey, trimCodes_escapeKey, codes_escapeKey_of_not_mem hinner]
    rfl

/-! ## The terms of an escaped query -/

theorem not_mem_escapeKey {separator : Char} (h : separator.toNat ∉ key.codes)
    (hplus : separator ≠ '+') : separator.toNat ∉ (escapeKey key).codes := by
  rw [codes_escapeKey, List.mem_map]
  rintro ⟨code, hcode, heq⟩
  split at heq
  · exact hplus (Char.toNat_inj.mp heq.symm)
  · rw [heq] at hcode
    exact h (Text.mem_of_mem_dropEndWhile_dropWhile _ hcode)

theorem not_mem_of_mem_terms {term : Term} (h : term ∈ terms query) :
    '&'.toNat ∉ term.key.codes ∧ '='.toNat ∉ term.key.codes := by
  obtain ⟨part, hpart, rfl⟩ := List.mem_map.mp h
  have hampersand : '&'.toNat ∉ part := Text.not_mem_of_mem_splitOn (List.mem_filter.mp hpart).1
  rw [Term.ofCodes, Text.cutAt]
  dsimp only
  rw [CodeString.codes_ofCodes]
  constructor
  · exact fun hmem => hampersand ((List.takeWhile_prefix _).subset hmem)
  · intro hmem
    simpa using List.mem_takeWhile_imp hmem

theorem Term.escape?_eq_some_iff {term other : Term} :
    term.escape? = some other ↔ ∃ value : String, term.value = value ∧
      other = ⟨escapeKey term.key, .text (Text.Percent.encode value)⟩ := by
  rw [Term.escape?, Option.map_eq_some_iff]
  cases term.value with
  | text value => simp [CodeString.text?, eq_comm]
  | broken value => simp [CodeString.text?]

theorem mapM_escape?_eq_none_iff (list : List Term) :
    list.mapM Term.escape? = none ↔ ∃ term ∈ list, term.value.text? = none := by
  induction list with
  | nil => simp
  | cons term list ih =>
      rw [List.mapM_cons, List.exists_mem_cons_iff, ← ih, Term.escape?]
      cases term.value.text? <;> cases list.mapM Term.escape? <;> simp

theorem forall₂_of_mapM_escape? {list others : List Term}
    (h : list.mapM Term.escape? = some others) :
    List.Forall₂ (fun term other => term.escape? = some other) list others := by
  induction list generalizing others with
  | nil =>
      cases h
      exact List.Forall₂.nil
  | cons term list ih =>
      rw [List.mapM_cons] at h
      obtain ⟨other, hother, h⟩ := Option.bind_eq_some_iff.mp h
      obtain ⟨rest, hrest, h⟩ := Option.bind_eq_some_iff.mp h
      cases h
      exact List.Forall₂.cons hother (ih hrest)

theorem codes_spell (term : Term) :
    term.spell.codes = term.key.codes ++ '='.toNat :: term.value.codes := by
  rw [Term.spell, CodeString.codes_append, CodeString.codes_append, List.append_assoc]
  rfl

/-- Written terms are read back if there is no separator inside. -/
theorem terms_join {list : List Term}
    (h : ∀ term ∈ list, '&'.toNat ∉ term.key.codes ∧ '='.toNat ∉ term.key.codes ∧
      '&'.toNat ∉ term.value.codes) :
    terms (CodeString.join "&" (list.map Term.spell)) = list := by
  have hwritten : (list.map Term.spell).map CodeString.codes =
      (list.map fun term => (term.key.codes, term.value.codes)).map
        fun pair => pair.1 ++ '='.toNat :: pair.2 := by
    rw [List.map_map, List.map_map]
    refine List.map_congr_left fun term _ => ?_
    rw [Function.comp_apply, Function.comp_apply, codes_spell]
  have hseparate : ∀ pair ∈ list.map fun term => (term.key.codes, term.value.codes),
      '&'.toNat ∉ pair.1 ∧ '='.toNat ∉ pair.1 ∧ '&'.toNat ∉ pair.2 := by
    intro pair hpair
    obtain ⟨term, hterm, rfl⟩ := List.mem_map.mp hpair
    exact h term hterm
  have hjoined : (CodeString.join "&" (list.map Term.spell)).codes =
      ['&'.toNat].intercalate ((list.map Term.spell).map CodeString.codes) :=
    CodeString.codes_join "&" _
  calc terms (CodeString.join "&" (list.map Term.spell))
      = (((Text.splitOn '&'.toNat (CodeString.join "&" (list.map Term.spell)).codes).filter
          (!·.isEmpty)).map (Text.cutAt '='.toNat)).map fun parts =>
            ⟨.ofCodes parts.1, .ofCodes parts.2⟩ := by
        rw [List.map_map]
        rfl
    _ = (list.map fun term => (term.key.codes, term.value.codes)).map fun parts =>
          ⟨.ofCodes parts.1, .ofCodes parts.2⟩ := by
        rw [hjoined, hwritten, Text.map_cutAt_splitOn_intercalate (by decide) hseparate]
    _ = list := by
        rw [List.map_map]
        refine (List.map_congr_left fun term _ => ?_).trans (List.map_id list)
        rw [Function.comp_apply, CodeString.ofCodes_codes, CodeString.ofCodes_codes, id_eq]

/-- An escaped query has the escaped terms of the query in their order. -/
theorem forall₂_terms_escape? (h : escape? query = some escaped) :
    List.Forall₂ (fun term other => term.escape? = some other) (terms query) (terms escaped) := by
  obtain ⟨others, hothers, rfl⟩ := Option.map_eq_some_iff.mp h
  have heach := forall₂_of_mapM_escape? hothers
  rw [terms_join]
  · exact heach
  · intro other hother
    obtain ⟨term, hterm, hescaped⟩ := exists_mem_of_forall₂ heach hother
    obtain ⟨value, -, rfl⟩ := Term.escape?_eq_some_iff.mp hescaped
    obtain ⟨hampersand, hequals⟩ := not_mem_of_mem_terms hterm
    refine ⟨not_mem_escapeKey hampersand (by decide), not_mem_escapeKey hequals (by decide), ?_⟩
    rw [CodeString.toNat_mem_codes_text]
    exact ampersand_not_mem_encode value

/-! ## Texts -/

/-- A term of a text. -/
def Term.ofTerm (term : Query.Term) : Term :=
  ⟨term.key, term.value⟩

theorem ofCodes_map_toNat (text : List Char) :
    CodeString.ofCodes (text.map Char.toNat) = String.ofList text := by
  rw [← CodeString.ofCodes_codes (String.ofList text), CodeString.codes_text,
    String.toList_ofList]

theorem ofCodes_term (text : List Char) :
    Term.ofCodes (text.map Char.toNat) = .ofTerm (Query.Term.ofChars text) := by
  rw [Term.ofCodes, Text.cutAt_map fun _ _ => Char.toNat_inj.mp]
  dsimp only
  rw [ofCodes_map_toNat, ofCodes_map_toNat]
  rfl

theorem terms_text (query : String) : terms query = (Query.terms query).map Term.ofTerm := by
  have hkept : (fun part : List Nat => !part.isEmpty) ∘ List.map Char.toNat =
      fun part => !part.isEmpty := by
    funext part
    rw [Function.comp_apply, List.isEmpty_map]
  rw [terms, CodeString.codes_text, Text.splitOn_map fun _ _ => Char.toNat_inj.mp,
    List.filter_map, hkept, List.map_map, Query.terms, List.map_map]
  exact List.map_congr_left fun part _ => ofCodes_term part

theorem foldKey_text (key : String) :
    foldKey key = (Query.foldKey key).toList.map Char.toNat := by
  rw [foldKey, CodeString.codes_text, Text.trimCodes_map_toNat, Query.foldKey,
    Text.map_toNat_lower, Text.trim, String.toList_ofList]

theorem hasKey_ofTerm_iff {term : Query.Term} {key : String} :
    (Term.ofTerm term).HasKey key ↔ Query.foldKey term.key = Query.foldKey key := by
  rw [Term.HasKey, Term.ofTerm, foldKey_text, foldKey_text,
    (List.map_injective_iff.mpr fun _ _ => Char.toNat_inj.mp).eq_iff, String.toList_inj]

/-- In a text the value is found that is found there by the functions of texts. -/
theorem find?_text (query key : String) :
    find? query key = (Query.find? query key).map CodeString.text := by
  have hsame : (fun term : Term => decide (term.HasKey key)) ∘ Term.ofTerm =
      fun term => Query.foldKey term.key == Query.foldKey key := by
    funext term
    rw [Function.comp_apply, Bool.eq_iff_iff, decide_eq_true_iff, beq_iff_eq]
    exact hasKey_ofTerm_iff
  rw [find?, terms_text, List.find?_map, hsame, Option.map_map, Query.find?, Option.map_map]
  rfl

theorem escapeKey_text (key : String) : escapeKey key = Query.escapeKey key := by
  have hswap : (fun code => if code = ' '.toNat then '+'.toNat else code) ∘ Char.toNat =
      Char.toNat ∘ fun c => if c = ' ' then '+' else c := by
    funext c
    simp only [Function.comp_apply, Char.toNat_inj]
    split <;> rfl
  rw [escapeKey, CodeString.codes_text, Text.trimCodes_map_toNat, List.map_map, hswap,
    ← List.map_map, ofCodes_map_toNat, Query.escapeKey]

theorem escape?_ofTerm (term : Query.Term) :
    (Term.ofTerm term).escape? = some (.ofTerm term.escaped) := by
  rw [Term.escape?_eq_some_iff]
  refine ⟨term.value, rfl, ?_⟩
  rw [Term.ofTerm, Term.ofTerm, escapeKey_text]
  rfl

theorem spell_escaped (term : Query.Term) : (Term.ofTerm term.escaped).spell = term.escape := by
  rw [← CodeString.codes_inj, codes_spell, CodeString.codes_text, toList_escape, List.map_append,
    List.map_cons]
  rfl

/-- A text is escaped as a text. -/
theorem escape?_text (query : String) : escape? query = some (.text (Query.escape query)) := by
  have heach : (terms query).mapM Term.escape? =
      some ((Query.terms query).map fun term => .ofTerm term.escaped) := by
    rw [terms_text]
    induction Query.terms query with
    | nil => rfl
    | cons term list ih =>
        rw [List.map_cons, List.mapM_cons, ih, escape?_ofTerm]
        rfl
  have hspelled : ((Query.terms query).map fun term => Term.ofTerm term.escaped).map Term.spell =
      ((Query.terms query).map Query.Term.escape).map CodeString.text := by
    rw [List.map_map, List.map_map]
    exact List.map_congr_left fun term _ => spell_escaped term
  rw [escape?, heach, Option.map_some, hspelled, CodeString.join_text, Query.escape]

/-! ## What is found -/

theorem hasKey_of_escape? (hspace : ' '.toNat ∉ trimCodes wanted.codes)
    (hplus : '+'.toNat ∉ trimCodes wanted.codes) {term other : Term}
    (h : term.escape? = some other) :
    decide (other.HasKey wanted) = decide (term.HasKey wanted) := by
  obtain ⟨value, -, rfl⟩ := Term.escape?_eq_some_iff.mp h
  exact decide_eq_decide.mpr (foldKey_escapeKey_eq_iff hspace hplus)

theorem findIdx?_escape? (hspace : ' '.toNat ∉ trimCodes wanted.codes)
    (hplus : '+'.toNat ∉ trimCodes wanted.codes) (h : escape? query = some escaped) :
    (terms escaped).findIdx? (·.HasKey wanted) = (terms query).findIdx? (·.HasKey wanted) :=
  findIdx?_eq_of_forall₂ (forall₂_terms_escape? h) fun _ _ => hasKey_of_escape? hspace hplus

theorem find?_escape? (hspace : ' '.toNat ∉ trimCodes wanted.codes)
    (hplus : '+'.toNat ∉ trimCodes wanted.codes) (h : escape? query = some escaped) :
    (find? query wanted = none ∧ find? escaped wanted = none) ∨
      ∃ value : String, find? query wanted = some (.text value) ∧
        find? escaped wanted = some (.text (Text.Percent.encode value)) := by
  have hrel := rel_find?_of_forall₂ (forall₂_terms_escape? h)
    fun _ _ => hasKey_of_escape? hspace hplus
  unfold find?
  generalize (terms query).find? _ = first, (terms escaped).find? _ = second at hrel ⊢
  cases hrel with
  | none => exact Or.inl ⟨rfl, rfl⟩
  | some heach =>
      obtain ⟨value, hvalue, rfl⟩ := Term.escape?_eq_some_iff.mp heach
      exact Or.inr ⟨value, congrArg some hvalue, rfl⟩

/-- The id of a retrieval is found in the resolved query. -/
theorem find?_of_recordId {template query id : String}
    (h : Bridge.Adapter.recordId template query = .ok id) :
    find? query Bridge.Adapter.recordIdKey = some (.text id) := by
  rw [find?_text]
  unfold Bridge.Adapter.recordId at h
  split at h
  · cases h
  · split at h
    · cases h
    · next value hvalue =>
      split at h
      · cases h
      · rw [hvalue, Option.map_some, Except.ok.inj h]

theorem escape?_eq_none_iff :
    escape? query = none ↔ ∃ term ∈ terms query, term.value.text? = none := by
  rw [escape?, Option.map_eq_none_iff, mapM_escape?_eq_none_iff]

/-- A query can be escaped unless one of its values holds a surrogate.  For a key without inner
spaces and plus signs, it then has the same first term as its escaped form, and the value there is
the percent-encoding of the other one.  So the escaped query would send the id that a retrieval
reads in the query and asks for. -/
theorem escaping_keeps_found_values (query key : CodeString)
    (hspace : ' '.toNat ∉ trimCodes key.codes) (hplus : '+'.toNat ∉ trimCodes key.codes) :
    (escape? query = none ↔ ∃ term ∈ terms query, term.value.text? = none) ∧
    (∀ escaped, escape? query = some escaped →
      (terms escaped).findIdx? (·.HasKey key) = (terms query).findIdx? (·.HasKey key) ∧
      (find? escaped key = none ↔ find? query key = none) ∧
      ∀ value, find? query key = some value → ∃ text : String, value = text ∧
        find? escaped key = some (.text (Text.Percent.encode text))) ∧
    ∀ (template text id : String), query = text → Bridge.Adapter.recordId template text = .ok id →
      ∃ sent : String,
        (escape? query).bind (find? · Bridge.Adapter.recordIdKey) = some (.text sent) ∧
        Service.recordResource id = Service.retrievePath ++ "/" ++ sent := by
  refine ⟨escape?_eq_none_iff, ?_, ?_⟩
  · intro escaped hescaped
    refine ⟨findIdx?_escape? hspace hplus hescaped, ?_, ?_⟩
    · rcases find?_escape? hspace hplus hescaped with ⟨hquery, hnone⟩ | ⟨value, hquery, hsome⟩
      · rw [hquery, hnone]
      · simp [hquery, hsome]
    · intro value hvalue
      rcases find?_escape? hspace hplus hescaped with ⟨hquery, -⟩ | ⟨text, hquery, hsome⟩
      · rw [hvalue] at hquery
        cases hquery
      · rw [hvalue] at hquery
        exact ⟨text, Option.some.inj hquery, hsome⟩
  · -- a query that an operation has resolved is a text, so it has an escaped form
    rintro template text id rfl hid
    have hquery := find?_of_recordId hid
    have hnospace : ' '.toNat ∉ trimCodes (CodeString.text Bridge.Adapter.recordIdKey).codes := by
      decide
    have hnoplus : '+'.toNat ∉ trimCodes (CodeString.text Bridge.Adapter.recordIdKey).codes := by
      decide
    rcases find?_escape? hnospace hnoplus (escape?_text text) with
      ⟨hnone, -⟩ | ⟨value, hvalue, hsome⟩
    · rw [hquery] at hnone
      cases hnone
    · rw [hquery] at hvalue
      cases hvalue
      refine ⟨Text.Percent.encode id, ?_, rfl⟩
      rw [escape?_text, Option.bind_some, hsome]

/-- The Kelvin sign is a capital k, a key with an inner space is another key, and a surrogate in a
key does no harm. -/
theorem kelvin_sign_finds_same_term :
    let query : CodeString := "a k=1&" ++ .ofCodes [0xDCFF] ++ "k=2&\u212A =x y&k=3"
    ' '.toNat ∉ trimCodes (CodeString.text " k\t").codes ∧
      '+'.toNat ∉ trimCodes (CodeString.text " k\t").codes ∧
      find? query (.text " k\t") = some (.text "x y") ∧
      ∃ escaped, escape? query = some escaped ∧
        find? escaped (.text " k\t") = some (.text (Text.Percent.encode "x y")) := by
  intro query
  have hspace : ' '.toNat ∉ trimCodes (CodeString.text " k\t").codes := by decide
  have hplus : '+'.toNat ∉ trimCodes (CodeString.text " k\t").codes := by decide
  have hfound : find? query (.text " k\t") = some (.text "x y") := by decide +kernel
  have hescaped : (escape? query).isSome = true := by decide +kernel
  obtain ⟨escaped, hescaped⟩ := Option.isSome_iff_exists.mp hescaped
  obtain ⟨text, htext, hsent⟩ :=
    ((escaping_keeps_found_values query (.text " k\t") hspace hplus).2.1 escaped hescaped).2.2
      _ hfound
  cases htext
  exact ⟨hspace, hplus, hfound, escaped, hescaped, hsent⟩

/-- A surrogate in a value is found, but the query has no escaped form. -/
theorem broken_value_has_no_escaped_form :
    let query : CodeString := "a=" ++ .ofCodes [0xDCFF]
    ' '.toNat ∉ trimCodes (CodeString.text "a").codes ∧
      '+'.toNat ∉ trimCodes (CodeString.text "a").codes ∧
      find? query (.text "a") = some (.ofCodes [0xDCFF]) ∧ escape? query = none := by
  decide +kernel

end QueryBridge.Query.Raw
