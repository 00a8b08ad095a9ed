import QueryBridge.Template

/-!
# Placeholders before an ampersand

An ampersand is part of a placeholder only within its name.  So a placeholder that ends
before an ampersand is found without reading on, and where none ends before it, a
placeholder that begins there passes it.
-/

namespace QueryBridge.Template

variable {text rest : List Char}

/-! ## The parts around a name -/

theorem after?_append {word : List Char} (h : '&' ∉ word) (text rest : List Char) :
    after? word (text ++ '&' :: rest) = (after? word text).map (· ++ '&' :: rest) := by
  induction word generalizing text with
  | nil => simp [after?]
  | cons w word ih =>
      simp only [List.mem_cons, not_or] at h
      cases text with
      | nil => simp [after?, Ne.symm h.1]
      | cons c text =>
          simp only [List.cons_append, after?]
          split
          · exact ih h.2 text
          · rfl

theorem skipBlanks_append (text rest : List Char) :
    skipBlanks (text ++ '&' :: rest) = skipBlanks text ++ '&' :: rest := by
  unfold skipBlanks
  induction text with
  | nil =>
      rw [List.nil_append, List.dropWhile_cons_of_neg (by decide)]
      rfl
  | cons c text ih =>
      by_cases hblank : Text.isBlank c = true
      · rw [List.cons_append, List.dropWhile_cons_of_pos hblank, ih,
          List.dropWhile_cons_of_pos hblank]
      · rw [List.cons_append, List.dropWhile_cons_of_neg hblank,
          List.dropWhile_cons_of_neg hblank, List.cons_append]

theorem afterClosing?_append {quote : Char} (hquote : quote ≠ '&') (text rest : List Char) :
    afterClosing? quote (text ++ '&' :: rest) =
      (afterClosing? quote text).map (· ++ '&' :: rest) := by
  simp only [afterClosing?, Option.bind_eq_bind]
  rw [after?_append (by simpa using hquote.symm)]
  cases after? [quote] text with
  | none => rfl
  | some first =>
      simp only [Option.map_some, Option.bind_some]
      rw [skipBlanks_append, after?_append (by decide)]
      cases after? [']'] (skipBlanks first) with
      | none => rfl
      | some second =>
          simp only [Option.map_some, Option.bind_some]
          rw [skipBlanks_append, after?_append (by decide)]

theorem afterOpening?_append (text rest : List Char) :
    afterOpening? (text ++ '&' :: rest) =
      (afterOpening? text).map fun opened => (opened.1, opened.2 ++ '&' :: rest) := by
  simp only [afterOpening?, Option.bind_eq_bind]
  rw [after?_append (by decide)]
  cases after? ['<', '%', '='] text with
  | none => rfl
  | some first =>
      simp only [Option.map_some, Option.bind_some]
      rw [skipBlanks_append, after?_append (by decide)]
      cases after? "parameter[".toList (skipBlanks first) with
      | none => rfl
      | some second =>
          simp only [Option.map_some, Option.bind_some]
          rw [skipBlanks_append]
          cases skipBlanks second with
          | nil => rfl
          | cons c opened =>
              simp only [List.cons_append]
              split <;> rfl

theorem quote_of_afterOpening? {opened : Char × List Char} (h : afterOpening? text = some opened) :
    opened.1 ≠ '&' := by
  simp only [afterOpening?, Option.bind_eq_bind, Option.bind_eq_some_iff] at h
  obtain ⟨first, -, second, -, hopened⟩ := h
  split at hopened
  · split at hopened
    · next hquote =>
        cases hopened
        rintro rfl
        exact absurd hquote (by decide)
    · cases hopened
  · cases hopened

/-! ## The name -/

theorem name?_append_of_some {quote : Char} (hquote : quote ≠ '&')
    {found : List Char × List Char} (h : name? quote text = some found) :
    name? quote (text ++ '&' :: rest) = some (found.1, found.2 ++ '&' :: rest) := by
  induction text generalizing found with
  | nil => cases h
  | cons c text ih =>
      rw [name?] at h
      rw [List.cons_append, name?, ← List.cons_append, afterClosing?_append hquote]
      cases hclosing : afterClosing? quote (c :: text) with
      | some closed =>
          rw [hclosing] at h
          cases h
          rfl
      | none =>
          rw [hclosing] at h
          dsimp only [Option.map_none] at h ⊢
          by_cases hfeed : c = '\n'
          · rw [if_pos hfeed] at h
            cases h
          · rw [if_neg hfeed] at h ⊢
            obtain ⟨inner, hinner, rfl⟩ := Option.map_eq_some_iff.mp h
            rw [ih hinner]
            rfl

/-- A name that does not end before an ampersand passes it. -/
theorem length_le_of_name?_append {quote : Char} (hquote : quote ≠ '&')
    {found : List Char × List Char} (h : name? quote text = none)
    (hfound : name? quote (text ++ '&' :: rest) = some found) :
    found.2.length ≤ rest.length := by
  induction text generalizing found with
  | nil =>
      -- the name begins at the ampersand, so what follows it is shorter
      exact Nat.le_of_lt_succ (length_lt_of_name? hfound)
  | cons c text ih =>
      rw [name?] at h
      rw [List.cons_append, name?, ← List.cons_append, afterClosing?_append hquote] at hfound
      cases hclosing : afterClosing? quote (c :: text) with
      | some closed =>
          rw [hclosing] at h
          cases h
      | none =>
          rw [hclosing] at h hfound
          dsimp only [Option.map_none] at h hfound
          by_cases hfeed : c = '\n'
          · rw [if_pos hfeed] at hfound
            cases hfound
          · rw [if_neg hfeed] at h hfound
            obtain ⟨inner, hinner, rfl⟩ := Option.map_eq_some_iff.mp hfound
            have hlength := ih (Option.map_eq_none_iff.mp h) hinner
            exact hlength

/-! ## The placeholder -/

theorem placeholder?_append_of_some {found : List Char × List Char}
    (h : placeholder? text = some found) :
    placeholder? (text ++ '&' :: rest) = some (found.1, found.2 ++ '&' :: rest) := by
  simp only [placeholder?, Option.bind_eq_bind] at h ⊢
  obtain ⟨opened, hopened, hname⟩ := Option.bind_eq_some_iff.mp h
  rw [afterOpening?_append, hopened]
  exact name?_append_of_some (quote_of_afterOpening? hopened) hname

/-- A placeholder that does not end before an ampersand passes it. -/
theorem length_le_of_placeholder?_append {found : List Char × List Char}
    (h : placeholder? text = none) (hfound : placeholder? (text ++ '&' :: rest) = some found) :
    found.2.length ≤ rest.length := by
  simp only [placeholder?, Option.bind_eq_bind] at h hfound
  rw [afterOpening?_append] at hfound
  cases hopened : afterOpening? text with
  | none =>
      rw [hopened] at hfound
      cases hfound
  | some opened =>
      rw [hopened] at h hfound
      exact length_le_of_name?_append (quote_of_afterOpening? hopened) h hfound

theorem placeholder?_ampersand (rest : List Char) : placeholder? ('&' :: rest) = none := by
  simp [placeholder?, afterOpening?, after?]

/-! ## What follows a placeholder -/

theorem suffix_of_after? {word : List Char} (h : after? word text = some rest) : rest <:+ text := by
  induction word generalizing text with
  | nil =>
      cases h
      exact List.suffix_rfl
  | cons w word ih =>
      cases text with
      | nil => cases h
      | cons c text =>
          rw [after?] at h
          split at h
          · exact (ih h).trans (List.suffix_cons c text)
          · cases h

theorem suffix_of_afterClosing? {quote : Char} (h : afterClosing? quote text = some rest) :
    rest <:+ text := by
  simp only [afterClosing?, Option.bind_eq_bind, Option.bind_eq_some_iff] at h
  obtain ⟨first, hfirst, second, hsecond, hthird⟩ := h
  have h₁ : rest <:+ second := (suffix_of_after? hthird).trans (List.dropWhile_suffix _)
  have h₂ : second <:+ first := (suffix_of_after? hsecond).trans (List.dropWhile_suffix _)
  exact (h₁.trans h₂).trans (suffix_of_after? hfirst)

theorem suffix_of_name? {quote : Char} {found : List Char × List Char}
    (h : name? quote text = some found) : found.2 <:+ text := by
  induction text generalizing found with
  | nil => cases h
  | cons c text ih =>
      rw [name?] at h
      split at h
      · next closed hclosed =>
          cases h
          exact suffix_of_afterClosing? hclosed
      · split at h
        · cases h
        · obtain ⟨inner, hinner, rfl⟩ := Option.map_eq_some_iff.mp h
          exact (ih hinner).trans (List.suffix_cons c text)

theorem suffix_of_placeholder? {found : List Char × List Char}
    (h : placeholder? text = some found) : found.2 <:+ text := by
  simp only [placeholder?, afterOpening?, Option.bind_eq_bind, Option.bind_eq_some_iff] at h
  obtain ⟨opened, ⟨first, hfirst, second, hsecond, hopened⟩, hname⟩ := h
  have hsuffix : opened.2 <:+ skipBlanks second := by
    split at hopened
    · next c after hafter =>
        split at hopened
        · cases hopened
          rw [hafter]
          exact List.suffix_cons c after
        · cases hopened
    · cases hopened
  have h₁ : found.2 <:+ skipBlanks second := (suffix_of_name? hname).trans hsuffix
  have h₂ : second <:+ first := (suffix_of_after? hsecond).trans (List.dropWhile_suffix _)
  exact ((h₁.trans (List.dropWhile_suffix _)).trans h₂).trans (suffix_of_after? hfirst)

end QueryBridge.Template
