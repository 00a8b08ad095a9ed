import QueryBridge.Proofs.Url.Userinfo

/-!
# Texts below a good base

A base below which one path could be appended has a good scheme, authority and fragment.  Any
other path can be appended too, unless its own text is too long or holds a character that
cannot be printed, or it makes the path or the query too long.
-/

namespace QueryBridge.Url

/-! ## Texts of paths -/

/-- The text begins with a single slash, so it has neither a scheme nor an authority. -/
def IsRooted (text : List Char) : Prop :=
  ∃ c rest, text = '/' :: c :: rest ∧ c ≠ '/'

/-- What can be wrong with the text of a path, if nothing is wrong with the base. -/
inductive Error.LiesIn (text : List Char) : Error → Prop where
  | tooLong (h : maxLength < text.length) : LiesIn text .tooLong
  | unprintable {c : Char} {position : Nat} (hposition : text[position]? = some c)
      (hc : isUnprintableAscii c = true) : LiesIn text (.unprintable c position)
  | path : LiesIn text (.componentTooLong "path")
  | query : LiesIn text (.componentTooLong "query")

theorem IsRooted.head?_eq {text : List Char} (h : IsRooted text) : text.head? = some '/' := by
  obtain ⟨c, rest, rfl, -⟩ := h
  rfl

theorem checkPath_of_heads {first second : List Char} {hasScheme hasAuthority : Bool}
    (h : checkPath first hasScheme hasAuthority = .ok ()) (hhead : second.head? = first.head?)
    (hslashes : ['/', '/'].isPrefixOf second = true → ['/', '/'].isPrefixOf first = true) :
    checkPath second hasScheme hasAuthority = .ok () := by
  unfold checkPath at h ⊢
  rw [hhead]
  cases hasAuthority with
  | true => exact h
  | false =>
      cases hasScheme with
      | true => rfl
      | false =>
          simp only [Bool.false_eq_true, if_false] at h ⊢
          by_cases hfirst : ['/', '/'].isPrefixOf first = true
          · rw [if_pos hfirst] at h
            cases h
          · rw [if_neg hfirst] at h
            rw [if_neg fun hsecond => hfirst (hslashes hsecond)]
            exact h

/-- The text of a path has no other components in front of the path. -/
theorem ofText_eq_of_isRooted {text : List Char} (h : IsRooted text) :
    Components.ofText text = ⟨[], [], (cutMark '?' (cutMark '#' text).1).1,
      (cutMark '?' (cutMark '#' text).1).2, (cutMark '#' text).2⟩ := by
  obtain ⟨c, rest, rfl, hc⟩ := h
  have hscheme : cutScheme ('/' :: c :: rest) = ([], '/' :: c :: rest) := by
    simp [cutScheme, isSchemeChar]
  have hauthority : cutAuthority ('/' :: c :: rest) = ([], '/' :: c :: rest) := by
    unfold cutAuthority
    split
    · next heq => cases heq; exact absurd rfl hc
    · rfl
  unfold Components.ofText
  rw [hscheme]
  dsimp only
  rw [hauthority]

theorem ofText_of_isRooted {text : List Char} (h : IsRooted text) :
    ∃ path query fragment, Components.ofText text = ⟨[], [], path, query, fragment⟩ ∧
      checkPath path false false = .ok () := by
  refine ⟨_, _, _, ofText_eq_of_isRooted h, ?_⟩
  obtain ⟨c, rest, rfl, hc⟩ := h
  have hslash : checkPath ['/'] false false = .ok () := rfl
  refine checkPath_of_heads hslash (by simp [cutMark]) fun hslashes => ?_
  -- behind the slash stands `c` or, where a mark cuts it off, nothing
  by_cases hhash : c = '#'
  · simp [cutMark, hhash] at hslashes
  · by_cases hquestion : c = '?'
    · simp [cutMark, hquestion] at hslashes
    · simp [cutMark, hhash, hquestion, hc.symm] at hslashes

/-- A text that begins with a slash is read unless it is too long or cannot be printed. -/
theorem liesIn_of_parse {text : List Char} (h : IsRooted text) {error : Error}
    (herror : parse text = .error error) : error.LiesIn text := by
  unfold parse at herror
  split at herror
  next hlong =>
    cases herror
    exact .tooLong hlong
  next =>
    have htext := List.takeWhile_append_dropWhile (p := fun c => !isUnprintableAscii c) (l := text)
    split at herror
    next c rest hdrop =>
      cases herror
      have hnot := List.head?_dropWhile_not (fun c => !isUnprintableAscii c) text
      rw [hdrop] at hnot htext
      have hposition : ((text.takeWhile fun c => !isUnprintableAscii c) ++ c :: rest)[
          (text.takeWhile fun c => !isUnprintableAscii c).length]? = some c := by simp
      rw [htext] at hposition
      exact .unprintable hposition (by simpa using hnot)
    next =>
      obtain ⟨path, query, fragment, hcomponents, hpath⟩ := ofText_of_isRooted h
      rw [hcomponents] at herror
      have hread : ofComponents ⟨[], [], path, query, fragment⟩ = (checkPath path false false).bind
          fun _ => .ok _ := rfl
      rw [hread, hpath] at herror
      cases herror

/-! ## Paths below a base -/

theorem rawPath_ne_nil (url : Url) : url.rawPath ≠ [] := by
  unfold rawPath
  split
  · simp
  · next hpath => simp_all

/-- Two paths that begin with one base path are both good or both bad, if the second does not
add a slash to the base path. -/
theorem checkPath_append {raw first second : List Char} (hraw : raw ≠ [])
    (hsecond : second.head? ≠ some '/') {hasScheme hasAuthority : Bool}
    (h : checkPath (cutMark '?' (raw ++ first)).1 hasScheme hasAuthority = .ok ()) :
    checkPath (cutMark '?' (raw ++ second)).1 hasScheme hasAuthority = .ok () := by
  unfold cutMark at h ⊢
  obtain ⟨c, raw, rfl⟩ := List.exists_cons_of_ne_nil hraw
  rw [List.cons_append, List.takeWhile_cons] at h ⊢
  by_cases hc : c = '?'
  · simpa [hc] using h
  · rw [if_pos (by simpa using hc)] at h ⊢
    refine checkPath_of_heads h rfl fun hslashes => ?_
    cases raw with
    | nil =>
        -- the second slash would be that of the appended path
        cases second with
        | nil => simp at hslashes
        | cons d rest =>
            by_cases hd : d = '?'
            · simp [hd] at hslashes
            · simp [hd] at hslashes hsecond
              exact absurd hslashes.2.symm hsecond
    | cons d raw =>
        by_cases hd : d = '?'
        · simp [hd] at hslashes
        · simpa [hd] using hslashes

/-- Only the path and the query of a URL are read anew when they are replaced. -/
theorem ofComponents_of_path {components : Components} {url : Url}
    (h : ofComponents components = .ok url) {path : List Char} (query : Option (List Char))
    (hpath : ∀ hasScheme hasAuthority, checkPath components.path hasScheme hasAuthority = .ok () →
      checkPath path hasScheme hasAuthority = .ok ()) :
    ∃ other, ofComponents { components with path := path, query := query } = .ok other := by
  simp only [ofComponents, bind, Except.bind] at h ⊢
  split at h
  · cases h
  split at h
  · cases h
  split at h
  · cases h
  next hcheck =>
  rw [hpath _ _ hcheck]
  exact ⟨_, rfl⟩

theorem checkLengths_cases {components : Components} (h : checkLengths components = .ok ())
    (path : List Char) (query : Option (List Char)) :
    let changed := { components with path := path, query := query }
    checkLengths changed = .ok () ∨ checkLengths changed = .error (.componentTooLong "path") ∨
      checkLengths changed = .error (.componentTooLong "query") := by
  unfold checkLengths at h ⊢
  grind

theorem checkLengths_of_rebuild {components : Components} {url : Url}
    (h : rebuild components = .ok url) : checkLengths components = .ok () := by
  simp only [rebuild, bind, Except.bind] at h
  split at h
  · cases h
  · next hlengths => exact hlengths

/-- A path that is appended where another one could be can only make the URL too long. -/
theorem withRawPath_append_error {base url : Url} {raw first second : List Char}
    (h : base.withRawPath (raw ++ first) = .ok url) (hraw : raw ≠ [])
    (hsecond : second.head? ≠ some '/') {error : Error}
    (herror : base.withRawPath (raw ++ second) = .error error) :
    error = .componentTooLong "path" ∨ error = .componentTooLong "query" := by
  unfold withRawPath at h herror
  dsimp only at h herror
  obtain ⟨other, hother⟩ := ofComponents_of_path (ofComponents_of_rebuild h)
    (cutMark '?' (raw ++ second)).2 fun _ _ hcheck => checkPath_append hraw hsecond hcheck
  simp only [rebuild, bind, Except.bind] at herror
  rcases checkLengths_cases (checkLengths_of_rebuild h) (cutMark '?' (raw ++ second)).1
    (cutMark '?' (raw ++ second)).2 with hlengths | hlengths | hlengths
  · rw [hlengths] at herror
    cases hother.symm.trans herror
  · rw [hlengths] at herror
    cases herror
    exact Or.inl rfl
  · rw [hlengths] at herror
    cases herror
    exact Or.inr rfl

theorem length_cutMark_le (mark : Char) (text : List Char) :
    (cutMark mark text).1.length ≤ text.length ∧
      ((cutMark mark text).2.getD []).length ≤ text.length := by
  unfold cutMark
  refine ⟨(List.takeWhile_sublist _).length_le, ?_⟩
  dsimp only
  split
  · rw [Option.getD_some, List.length_drop]
    exact Nat.le_trans (Nat.sub_le _ _) (List.dropWhile_sublist _).length_le
  · exact Nat.zero_le _

/-- A short path can be appended where another one could be. -/
theorem exists_withRawPath_append {base url : Url} {raw first second : List Char}
    (h : base.withRawPath (raw ++ first) = .ok url) (hraw : raw ≠ [])
    (hsecond : second.head? ≠ some '/') (hlength : (raw ++ second).length ≤ maxLength) :
    ∃ other, base.withRawPath (raw ++ second) = .ok other := by
  unfold withRawPath at h ⊢
  dsimp only at h ⊢
  obtain ⟨other, hother⟩ := ofComponents_of_path (ofComponents_of_rebuild h)
    (cutMark '?' (raw ++ second)).2 fun _ _ hcheck => checkPath_append hraw hsecond hcheck
  obtain ⟨hpath, hquery⟩ := length_cutMark_le '?' (raw ++ second)
  have hlengths := checkLengths_of_rebuild h
  refine ⟨other, ?_⟩
  have hshort : checkLengths { base.components with
      path := (cutMark '?' (raw ++ second)).1, query := (cutMark '?' (raw ++ second)).2 } =
        .ok () := by
    unfold checkLengths at hlengths ⊢
    grind
  simp only [rebuild, bind, Except.bind, hshort]
  exact hother

theorem below_of_isRooted {text : List Char} (h : IsRooted text) {target : Url}
    (htarget : parse text = .ok target) (base : Url) :
    base.below text = base.withRawPath (base.rawPath ++ target.rawPath.dropWhile (· == '/')) := by
  obtain ⟨c, rest, rfl, -⟩ := h
  simp only [Url.below, bind, Except.bind, htarget]
  rw [not_isAbsolute_of_parse_slash htarget]
  rfl

/-- If one path could be appended to a base, another one fails by its own text or length. -/
theorem liesIn_of_below {base url : Url} {text other : List Char} (h : base.below text = .ok url)
    (htext : IsRooted text) (hother : IsRooted other) {error : Error}
    (herror : base.below other = .error error) : error.LiesIn other := by
  cases hparse : parse other with
  | error parseError =>
      simp only [Url.below, bind, Except.bind, hparse] at herror
      cases herror
      exact liesIn_of_parse hother hparse
  | ok target =>
      cases hgood : parse text with
      | error parseError =>
          simp only [Url.below, bind, Except.bind, hgood] at h
          cases h
      | ok good =>
          rw [below_of_isRooted htext hgood] at h
          rw [below_of_isRooted hother hparse] at herror
          have hhead : (target.rawPath.dropWhile (· == '/')).head? ≠ some '/' := by
            intro heq
            have hnot := List.head?_dropWhile_not (· == '/') target.rawPath
            rw [heq] at hnot
            cases hnot
          rcases withRawPath_append_error h (rawPath_ne_nil base) hhead herror with rfl | rfl
          · exact .path
          · exact .query

end QueryBridge.Url
