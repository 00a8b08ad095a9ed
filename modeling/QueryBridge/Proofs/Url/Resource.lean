import QueryBridge.Proofs.Url.Below
import QueryBridge.Proofs.Url.Segment

/-!
# Resources below a root

The text of a resource is a path, with a query or without one.  Below a root without a query,
the URL of a resource has the resource's query up to a number sign, where a fragment begins, and
its path is that of the root with the path of the resource behind it.  Both are written with
safe characters, and what is written so is not encoded a second time.
-/

namespace QueryBridge.Url

open QueryBridge.Text.Percent (encodeChars encodeExcept isUnreserved)

/-! ## Safe characters -/

/-- The characters of an encoding are safe themselves. -/
structure KeepsEncoded (isSafe : Char → Bool) : Prop where
  percent : isSafe '%' = true
  unreserved : ∀ c, isUnreserved c = true → isSafe c = true

theorem isSafeExcept_of_isUnreserved {unsafeCharacters : String}
    (h : unsafeCharacters.toList.any isUnreserved = false) {c : Char}
    (hc : isUnreserved c = true) : isSafeExcept unsafeCharacters c = true := by
  obtain ⟨hlow, hhigh⟩ := Text.Percent.toNat_of_isUnreserved hc
  have hmem : c ∉ unsafeCharacters.toList := fun hmem => List.any_eq_false.mp h c hmem hc
  simp [isSafeExcept, hlow, hhigh, hmem]

theorem keepsEncoded_isPathSafe : KeepsEncoded isPathSafe :=
  ⟨by decide, fun _ hc => isSafeExcept_of_isUnreserved (by decide) hc⟩

theorem keepsEncoded_isQuerySafe : KeepsEncoded isQuerySafe :=
  ⟨by decide, fun _ hc => isSafeExcept_of_isUnreserved (by decide) hc⟩

/-- A safe character can be printed. -/
theorem not_isUnprintableAscii_of_isSafe {unsafeCharacters : String} {c : Char}
    (h : isSafeExcept unsafeCharacters c = true) : isUnprintableAscii c = false := by
  simp only [isSafeExcept, Bool.and_eq_true, decide_eq_true_eq] at h
  simp only [isUnprintableAscii, Bool.or_eq_false_iff, decide_eq_false_iff_not,
    beq_eq_false_iff_ne]
  omega

theorem isQuerySafe_of_isPathSafe {c : Char} (h : isPathSafe c = true) : isQuerySafe c = true := by
  unfold isPathSafe isQuerySafe isSafeExcept at *
  simp only [Bool.and_eq_true, Bool.not_eq_true', List.contains_eq_mem, decide_eq_true_eq,
    decide_eq_false_iff_not] at h ⊢
  refine ⟨h.1, fun hmem => h.2 ?_⟩
  have hsubset : "\"#<>".toList ⊆ "\"#<>?`\x7b\x7d".toList := by decide
  exact hsubset hmem

variable {isSafe : Char → Bool} {text : List Char}

theorem KeepsEncoded.isSafe_of_mem (h : KeepsEncoded isSafe) {c : Char}
    (hc : c ∈ encodeExcept isSafe text) : isSafe c = true := by
  rcases Text.Percent.mem_encodeExcept hc with ⟨-, hsafe⟩ | rfl | hhex
  · exact hsafe
  · exact h.percent
  · exact h.unreserved c (Text.Percent.isUnreserved_of_isSome_hexValue? hhex)

theorem KeepsEncoded.encode_encode (h : KeepsEncoded isSafe) :
    encodeExcept isSafe (encodeExcept isSafe text) = encodeExcept isSafe text :=
  Text.Percent.encodeExcept_of_isSafe fun _ hc => h.isSafe_of_mem hc

theorem KeepsEncoded.isSafe_of_mem_encodeChars (h : KeepsEncoded isSafe) {c : Char}
    (hc : c ∈ encodeChars text) : isSafe c = true := by
  rcases Text.Percent.mem_encodeChars hc with rfl | hunreserved
  · exact h.percent
  · exact h.unreserved c hunreserved

theorem not_mem_of_isPathSafe {c : Char} (h : ∀ c ∈ text, isPathSafe c = true)
    (hc : isPathSafe c = false) : c ∉ text := by
  intro hmem
  rw [h c hmem] at hc
  cases hc

/-! ## Texts of resources -/

theorem cutMark_append_cons {mark : Char} {first : List Char} (h : mark ∉ first)
    (rest : List Char) : cutMark mark (first ++ mark :: rest) = (first, some rest) := by
  have hall : ∀ c ∈ first, (c != mark) = true := by
    intro c hc
    simpa using fun heq : c = mark => h (heq ▸ hc)
  unfold cutMark
  rw [List.takeWhile_append_of_pos hall, List.dropWhile_append_of_pos hall]
  simp

theorem cutMark_of_not_mem {mark : Char} (h : mark ∉ text) : cutMark mark text = (text, none) := by
  have hall : ∀ c ∈ text, (c != mark) = true := by
    intro c hc
    simpa using fun heq : c = mark => h (heq ▸ hc)
  unfold cutMark
  rw [List.takeWhile_eq_self_iff.mpr hall, if_neg (by simpa using h)]

theorem cutMark_append_withMark {mark : Char} {first : List Char} (h : mark ∉ first)
    (rest : Option (List Char)) : cutMark mark (first ++ withMark mark rest) = (first, rest) := by
  cases rest with
  | none =>
      rw [withMark, List.append_nil]
      exact cutMark_of_not_mem h
  | some rest => exact cutMark_append_cons h rest

theorem fst_cutMark (mark : Char) (text : List Char) :
    (cutMark mark text).1 = text.takeWhile (· != mark) := rfl

/-- What a number sign cuts off. -/
theorem fst_cutMark_append {mark : Char} {first : List Char} (h : mark ∉ first)
    (rest : List Char) : (cutMark mark (first ++ rest)).1 = first ++ (cutMark mark rest).1 := by
  refine List.takeWhile_append_of_pos fun c hc => ?_
  simpa using fun heq : c = mark => h (heq ▸ hc)

/-- The path of a resource, behind its slash. -/
structure IsResourcePath (inner : List Char) : Prop where
  head_ne : ∃ c rest, inner = c :: rest ∧ c ≠ '/'
  safe : ∀ c ∈ inner, isPathSafe c = true

/-- The text of a resource. -/
def resourceText (inner : List Char) (query : Option (List Char)) : List Char :=
  '/' :: (inner ++ withMark '?' query)

/-- The query that is sent for the query of a resource. -/
def sentQuery (query : List Char) : List Char :=
  encodeExcept isQuerySafe (cutMark '#' query).1

variable {inner : List Char} {query : Option (List Char)}

theorem IsResourcePath.isRooted (h : IsResourcePath inner) (query : Option (List Char)) :
    IsRooted (resourceText inner query) := by
  obtain ⟨c, rest, rfl, hc⟩ := h.head_ne
  exact ⟨c, rest ++ withMark '?' query, rfl, hc⟩

theorem IsResourcePath.safe_cons (h : IsResourcePath inner) :
    ∀ c ∈ '/' :: inner, isPathSafe c = true :=
  List.forall_mem_cons.mpr ⟨by decide, h.safe⟩

theorem printable_of_any (h : text.any isUnprintableAscii = false) :
    ∀ c ∈ text, isUnprintableAscii c = false :=
  fun c hc => Bool.eq_false_iff.mpr (List.any_eq_false.mp h c hc)

/-- The text of a path without a query can be printed. -/
theorem printable_of_isPathSafe (h : IsResourcePath inner) :
    ∀ c ∈ resourceText inner none, isUnprintableAscii c = false := by
  intro c hc
  rw [resourceText, withMark, List.append_nil] at hc
  exact not_isUnprintableAscii_of_isSafe (h.safe_cons c hc)

/-- Encoding the text of a resource encodes its query. -/
theorem encode_resourceText (h : IsResourcePath inner) (query : Option (List Char)) :
    encodeExcept isQuerySafe (resourceText inner query) =
      resourceText inner (query.map (encodeExcept isQuerySafe)) := by
  have hinner : encodeExcept isQuerySafe ('/' :: inner) = '/' :: inner :=
    Text.Percent.encodeExcept_of_isSafe fun c hc => isQuerySafe_of_isPathSafe (h.safe_cons c hc)
  have hmark : encodeExcept isQuerySafe (withMark '?' query) =
      withMark '?' (query.map (encodeExcept isQuerySafe)) := by
    cases query with
    | none => rfl
    | some text => exact Text.Percent.encodeExcept_cons_of_isSafe (by decide) text
  calc encodeExcept isQuerySafe (resourceText inner query)
      = encodeExcept isQuerySafe ('/' :: inner) ++ encodeExcept isQuerySafe (withMark '?' query) :=
        Text.Percent.encodeExcept_append _ ('/' :: inner) (withMark '?' query)
    _ = resourceText inner (query.map (encodeExcept isQuerySafe)) := by
        rw [hinner, hmark]
        rfl

theorem ofText_resourceText (h : IsResourcePath inner) (query : Option (List Char)) :
    ∃ fragment, Components.ofText (resourceText inner query) =
      ⟨[], [], '/' :: inner, query.map fun text => (cutMark '#' text).1, fragment⟩ := by
  have hhash : '#' ∉ '/' :: inner := not_mem_of_isPathSafe h.safe_cons (by decide)
  have hquestion : '?' ∉ '/' :: inner := not_mem_of_isPathSafe h.safe_cons (by decide)
  have hcut : (cutMark '#' (resourceText inner query)).1 =
      '/' :: inner ++ withMark '?' (query.map fun text => (cutMark '#' text).1) := by
    have happend := fst_cutMark_append hhash (withMark '?' query)
    cases query with
    | none => exact happend
    | some text =>
        -- the question mark is no number sign either
        have hmark : (cutMark '#' ('?' :: text)).1 = '?' :: (cutMark '#' text).1 := rfl
        rw [withMark, hmark] at happend
        exact happend
  rw [ofText_eq_of_isRooted (h.isRooted query), hcut, cutMark_append_withMark hquestion]
  exact ⟨_, rfl⟩

/-- What is read of the text of a resource. -/
theorem parse_resourceText (h : IsResourcePath inner) {target : Url}
    (htarget : parse (resourceText inner query) = .ok target) :
    target.path = '/' :: inner ∧ target.query = query.map sentQuery := by
  obtain ⟨fragment, hcomponents⟩ := ofText_resourceText h query
  have htarget := ofComponents_of_parse htarget
  rw [hcomponents] at htarget
  have hread : ofComponents ⟨[], [], '/' :: inner, query.map fun text => (cutMark '#' text).1,
      fragment⟩ = (checkPath ('/' :: inner) false false).bind fun _ => .ok ⟨[], [], [], none,
        encodeExcept isPathSafe ('/' :: inner),
        (query.map fun text => (cutMark '#' text).1).map (encodeExcept isQuerySafe),
        fragment.map (encodeExcept isFragmentSafe)⟩ := rfl
  rw [hread] at htarget
  cases hcheck : checkPath ('/' :: inner) false false with
  | error error =>
      rw [hcheck] at htarget
      cases htarget
  | ok _ =>
      rw [hcheck] at htarget
      cases htarget
      exact ⟨Text.Percent.encodeExcept_of_isSafe h.safe_cons, Option.map_map _ _ _⟩

/-- A text that can be printed and is not too long is read. -/
theorem exists_parse_resourceText (h : IsResourcePath inner)
    (hlength : (resourceText inner query).length ≤ maxLength)
    (hprintable : ∀ c ∈ resourceText inner query, isUnprintableAscii c = false) :
    ∃ target, parse (resourceText inner query) = .ok target := by
  obtain ⟨path, others, fragment, hcomponents, hpath⟩ := ofText_of_isRooted (h.isRooted query)
  have hall : (resourceText inner query).dropWhile (fun c => !isUnprintableAscii c) = [] := by
    rw [List.dropWhile_eq_nil_iff]
    intro c hc
    rw [hprintable c hc]
    rfl
  have hread : ofComponents ⟨[], [], path, others, fragment⟩ = (checkPath path false false).bind
      fun _ => .ok _ := rfl
  rw [parse, if_neg (Nat.not_lt.mpr hlength), hall]
  dsimp only
  rw [hcomponents, hread, hpath]
  exact ⟨_, rfl⟩

/-- The URL of a resource is the base with the resource behind its path. -/
theorem below_resourceText (h : IsResourcePath inner) {target : Url}
    (htarget : parse (resourceText inner query) = .ok target) (base : Url) :
    base.below (resourceText inner query) =
      base.withRawPath (base.rawPath ++ inner ++ withMark '?' (query.map sentQuery)) := by
  obtain ⟨hpath, hquery⟩ := parse_resourceText h htarget
  have hraw : target.rawPath = '/' :: inner ++ withMark '?' (query.map sentQuery) := by
    rw [rawPath, hpath, hquery]
    rfl
  obtain ⟨c, rest, rfl, hc⟩ := h.head_ne
  rw [below_of_isRooted (h.isRooted query) htarget, hraw, List.append_assoc]
  simp [hc]

/-! ## Roots -/

/-- A URL without a query, whose path is written with safe characters. -/
structure IsRoot (url : Url) : Prop where
  safe : ∀ c ∈ url.path, isPathSafe c = true
  query_eq : url.query = none

/-- The path, the query and the fragment of a URL are made from those of its components. -/
theorem ofComponents_rest {components : Components} {url : Url}
    (h : ofComponents components = .ok url) :
    url.query = components.query.map (encodeExcept isQuerySafe) ∧
      url.fragment = components.fragment.map (encodeExcept isFragmentSafe) ∧
      ∃ path, (path = components.path ∨ path = normalPath components.path) ∧
        (components.scheme ≠ [] → path = normalPath components.path) ∧
        url.path = encodeExcept isPathSafe path := by
  simp only [ofComponents, bind, Except.bind] at h
  split at h
  · cases h
  split at h
  · cases h
  split at h
  · cases h
  cases h
  refine ⟨rfl, rfl, _, ?_, ?_, rfl⟩
  · split
    · exact Or.inr rfl
    · exact Or.inl rfl
  · intro hscheme
    rw [if_pos (by simp [hscheme])]

theorem IsRoot.of_ofComponents {components : Components} {url : Url}
    (h : ofComponents components = .ok url) (hquery : url.query = none) : url.IsRoot := by
  obtain ⟨-, -, path, -, -, hpath⟩ := ofComponents_rest h
  refine ⟨fun c hc => ?_, hquery⟩
  rw [hpath] at hc
  exact keepsEncoded_isPathSafe.isSafe_of_mem hc

theorem IsRoot.of_parse {text : List Char} {url : Url} (h : parse text = .ok url)
    (hquery : url.query = none) : url.IsRoot :=
  .of_ofComponents (ofComponents_of_parse h) hquery

theorem IsRoot.rawPath_eq {url : Url} (h : url.IsRoot) :
    url.rawPath = if url.path.isEmpty then ['/'] else url.path := by
  rw [rawPath, h.query_eq, withMark, List.append_nil]

theorem IsRoot.safe_rawPath {url : Url} (h : url.IsRoot) :
    ∀ c ∈ url.rawPath, isPathSafe c = true := by
  rw [h.rawPath_eq]
  split
  · exact List.forall_mem_singleton.mpr (by decide)
  · exact h.safe

theorem safe_normalPath {path : List Char} (h : ∀ c ∈ path, isPathSafe c = true) :
    ∀ c ∈ normalPath path, isPathSafe c = true := by
  intro c hc
  rcases mem_normalPath hc with rfl | hmem
  · decide
  · exact h c hmem

/-- The parts of a URL whose path and query are replaced. -/
theorem withRawPath_eq_ok {base url : Url} {path : List Char} {query : Option (List Char)}
    (hsafe : ∀ c ∈ path, isPathSafe c = true)
    (h : base.withRawPath (path ++ withMark '?' query) = .ok url) :
    url.query = query.map (encodeExcept isQuerySafe) ∧
      (url.path = path ∨ url.path = normalPath path) ∧
      (base.scheme ≠ [] → url.path = normalPath path) := by
  have hquestion : '?' ∉ path := not_mem_of_isPathSafe hsafe (by decide)
  rw [withRawPath, cutMark_append_withMark hquestion] at h
  obtain ⟨hquery, -, written, hwritten, hscheme, hpath⟩ :=
    ofComponents_rest (ofComponents_of_rebuild h)
  have hsafe' : ∀ c ∈ written, isPathSafe c = true := by
    rcases hwritten with rfl | rfl
    · exact hsafe
    · exact safe_normalPath hsafe
  rw [Text.Percent.encodeExcept_of_isSafe hsafe'] at hpath
  subst hpath
  exact ⟨hquery, hwritten, hscheme⟩

/-! ## Bases -/

theorem scheme_toBase {root base : Url} (h : root.toBase = .ok base) (hscheme : root.scheme ≠ []) :
    base.scheme ≠ [] := by
  unfold Url.toBase at h
  split at h
  · cases h
    exact hscheme
  · rw [(ofComponents_parts (ofComponents_of_rebuild h)).1]
    exact mt List.map_eq_nil_iff.mp hscheme

/-- A root that ends in a slash is the base itself; otherwise a slash is appended to its path. -/
theorem IsRoot.toBase_cases {root base : Url} (hroot : root.IsRoot) (h : root.toBase = .ok base) :
    (root.rawPath.getLast? = some '/' ∧ base = root) ∨
      root.rawPath = root.path ∧ base.IsRoot ∧
        (base.path = root.path ++ ['/'] ∨ base.path = normalPath (root.path ++ ['/'])) := by
  unfold Url.toBase at h
  split at h
  · next hlast =>
      cases h
      exact Or.inl ⟨hlast, rfl⟩
  · next hlast =>
      have hraw : root.rawPath = root.path := by
        have hcases := hroot.rawPath_eq
        split at hcases
        · exact absurd (congrArg List.getLast? hcases) hlast
        · exact hcases
      have hsafe : ∀ c ∈ root.path ++ ['/'], isPathSafe c = true :=
        List.forall_mem_append.mpr ⟨hroot.safe, List.forall_mem_singleton.mpr (by decide)⟩
      have hmark : root.path ++ ['/'] = root.path ++ ['/'] ++ withMark '?' none :=
        (List.append_nil _).symm
      rw [hraw, hmark] at h
      obtain ⟨hquery, hpath, -⟩ := withRawPath_eq_ok hsafe h
      exact Or.inr ⟨hraw, .of_ofComponents (ofComponents_of_rebuild h) hquery, hpath⟩

theorem IsRoot.toBase {root base : Url} (hroot : root.IsRoot) (h : root.toBase = .ok base) :
    base.IsRoot := by
  rcases hroot.toBase_cases h with ⟨-, rfl⟩ | ⟨-, hbase, -⟩
  · exact hroot
  · exact hbase

theorem IsRoot.length_rawPath_le {url : Url} (h : url.IsRoot) {count : Nat}
    (hcount : url.path.length ≤ count + 1) : url.rawPath.length ≤ count + 1 := by
  rw [h.rawPath_eq]
  split
  · exact Nat.succ_le_succ (Nat.zero_le count)
  · exact hcount

theorem IsRoot.length_rawPath_toBase_le {root base : Url} (hroot : root.IsRoot)
    (h : root.toBase = .ok base) : base.rawPath.length ≤ root.path.length + 1 := by
  rcases hroot.toBase_cases h with ⟨-, rfl⟩ | ⟨-, hbase, hpath⟩
  · exact hroot.length_rawPath_le (Nat.le_succ _)
  · refine hbase.length_rawPath_le ?_
    have hnormal := length_normalPath_le (root.path ++ ['/'])
    rw [List.length_append, List.length_singleton] at hnormal
    rcases hpath with hpath | hpath
    · rw [hpath, List.length_append, List.length_singleton]
    · rw [hpath]
      exact hnormal

/-- The base of a root without dot segments and without a slash at its end. -/
theorem IsRoot.rawPath_toBase {root base : Url} (hroot : root.IsRoot)
    (hdotless : IsDotless root.path) (hend : root.path.getLast? ≠ some '/')
    (h : root.toBase = .ok base) : base.rawPath = root.path ++ ['/'] := by
  rcases hroot.toBase_cases h with ⟨hlast, rfl⟩ | ⟨-, hbase, hpath⟩
  · rw [hroot.rawPath_eq] at hlast ⊢
    split at hlast
    · next hempty =>
        rw [if_pos hempty, List.isEmpty_iff.mp hempty]
        rfl
    · exact absurd hlast hend
  · have hslash : IsDotless (root.path ++ ['/']) :=
      isDotless_append_slash_iff.mpr ⟨hdotless, isDotless_nil⟩
    rw [normalPath_of_isDotless hslash, or_self] at hpath
    rw [hbase.rawPath_eq, hpath, if_neg (by simp)]

/-! ## What is sent -/

theorem map_encode_sentQuery (query : Option (List Char)) :
    (query.map sentQuery).map (encodeExcept isQuerySafe) = query.map sentQuery := by
  rw [Option.map_map]
  refine congrArg (query.map ·) (funext fun text => ?_)
  exact keepsEncoded_isQuerySafe.encode_encode

/-- A query of safe characters is sent as it is. -/
theorem sentQuery_of_isQuerySafe (h : ∀ c ∈ text, isQuerySafe c = true) :
    sentQuery text = text := by
  have hmark : '#' ∉ text := by
    intro hmem
    exact absurd (h '#' hmem) (by decide)
  rw [sentQuery, cutMark_of_not_mem hmark, Text.Percent.encodeExcept_of_isSafe h]

/-- The query and the path that are sent for a resource. -/
theorem below_eq_ok {base url : Url} (hbase : base.IsRoot) (hinner : IsResourcePath inner)
    (h : base.below (resourceText inner query) = .ok url) :
    url.query = query.map sentQuery ∧
      (url.path = base.rawPath ++ inner ∨ url.path = normalPath (base.rawPath ++ inner)) ∧
      (base.scheme ≠ [] → url.path = normalPath (base.rawPath ++ inner)) := by
  cases htarget : parse (resourceText inner query) with
  | error error =>
      simp only [Url.below, bind, Except.bind, htarget] at h
      cases h
  | ok target =>
      rw [below_resourceText hinner htarget] at h
      have hsafe : ∀ c ∈ base.rawPath ++ inner, isPathSafe c = true :=
        List.forall_mem_append.mpr ⟨hbase.safe_rawPath, hinner.safe⟩
      obtain ⟨hquery, hpath⟩ := withRawPath_eq_ok hsafe h
      rw [map_encode_sentQuery] at hquery
      exact ⟨hquery, hpath⟩

theorem length_withMark_map_le {mark : Char} {first second : List Char → List Char}
    (h : ∀ text, (first text).length ≤ (second text).length) (query : Option (List Char)) :
    (withMark mark (query.map first)).length ≤ (withMark mark (query.map second)).length := by
  cases query with
  | none => exact Nat.le_refl _
  | some text => exact Nat.succ_le_succ (h text)

theorem length_sentQuery_le (text : List Char) :
    (sentQuery text).length ≤ (encodeExcept isQuerySafe text).length := by
  have hcut : (cutMark '#' text).1 ++ text.dropWhile (· != '#') = text :=
    List.takeWhile_append_dropWhile
  calc (sentQuery text).length
      ≤ (sentQuery text ++ encodeExcept isQuerySafe (text.dropWhile (· != '#'))).length := by
        rw [List.length_append]
        exact Nat.le_add_right _ _
    _ = (encodeExcept isQuerySafe text).length := by
        rw [sentQuery, ← Text.Percent.encodeExcept_append, hcut]

/-- A resource that can be printed and is short enough has a URL below a base that is good for
another one. -/
theorem exists_below {root base good : Url} {text : List Char} (hroot : root.IsRoot)
    (hbase : root.toBase = .ok base) (hgood : base.below text = .ok good) (htext : IsRooted text)
    (hinner : IsResourcePath inner)
    (hprintable : ∀ c ∈ resourceText inner query, isUnprintableAscii c = false)
    (hlength : (root.path ++ resourceText inner (query.map (encodeExcept isQuerySafe))).length ≤
      maxLength) : ∃ url, base.below (resourceText inner query) = .ok url := by
  simp only [resourceText, List.length_append, List.length_cons] at hlength
  have hwritten : (withMark '?' query).length ≤
      (withMark '?' (query.map (encodeExcept isQuerySafe))).length := by
    have hmap : (withMark '?' (query.map id)).length ≤ _ := length_withMark_map_le
      (Text.Percent.length_le_length_encodeExcept isQuerySafe) query
    rwa [Option.map_id, id_eq] at hmap
  have hsent : (withMark '?' (query.map sentQuery)).length ≤
      (withMark '?' (query.map (encodeExcept isQuerySafe))).length :=
    length_withMark_map_le length_sentQuery_le query
  obtain ⟨target, htarget⟩ : ∃ target, parse (resourceText inner query) = .ok target := by
    refine exists_parse_resourceText hinner ?_ hprintable
    rw [resourceText, List.length_cons, List.length_append]
    omega
  obtain ⟨goodTarget, hgoodTarget⟩ : ∃ target, parse text = .ok target := by
    cases hparse : parse text with
    | ok target => exact ⟨target, rfl⟩
    | error error =>
        simp only [Url.below, bind, Except.bind, hparse] at hgood
        cases hgood
  rw [below_of_isRooted htext hgoodTarget] at hgood
  rw [below_resourceText hinner htarget, List.append_assoc]
  refine exists_withRawPath_append hgood (rawPath_ne_nil base) ?_ ?_
  · obtain ⟨c, rest, rfl, hc⟩ := hinner.head_ne
    simpa using hc
  · have hraw := hroot.length_rawPath_toBase_le hbase
    rw [List.length_append, List.length_append]
    omega

end QueryBridge.Url
