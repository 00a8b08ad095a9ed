import Mathlib.Data.List.TakeWhile
import QueryBridge.Proofs.Template.Locality
import QueryBridge.Proofs.Text.Blank

/-!
# The written form of placeholders

`IsForm` says what the text of a placeholder looks like, without saying how it is found.
Each step of the scanner reads one part of this form, so `placeholder?` finds a placeholder
exactly where a text begins with one, and of all names that are possible there the shortest.
-/

namespace QueryBridge.Template

open Text (IsBlankRun)

variable {text rest name : List Char} {quote : Char}

def IsQuote (c : Char) : Prop :=
  c = '"' ∨ c = '\''

/-- What stands in front of a name: `<%=`, `parameter[` and a quote, with blanks between. -/
def IsOpening (opening : List Char) (quote : Char) : Prop :=
  IsQuote quote ∧ ∃ first second, IsBlankRun first ∧ IsBlankRun second ∧
    opening = "<%=".toList ++ first ++ "parameter[".toList ++ second ++ [quote]

/-- What stands behind a name: the quote again, `]` and `%>`, with blanks between. -/
def IsClosing (quote : Char) (closing : List Char) : Prop :=
  ∃ first second, IsBlankRun first ∧ IsBlankRun second ∧
    closing = [quote] ++ first ++ "]".toList ++ second ++ "%>".toList

/-- The text of a placeholder with the given name. -/
def IsForm (source name : List Char) : Prop :=
  ∃ quote opening closing, IsOpening opening quote ∧ '\n' ∉ name ∧ IsClosing quote closing ∧
    source = opening ++ name ++ closing

/-- The text begins with a placeholder. -/
def BeginsForm (text : List Char) : Prop :=
  ∃ source name rest, IsForm source name ∧ text = source ++ rest

/-- The placeholder in front of `rest`: of all names with which a placeholder could be read
here, it has the shortest. -/
structure IsPlaceholder (source name rest : List Char) : Prop where
  form : IsForm source name
  shortest : ∀ source' name' rest', IsForm source' name' → source ++ rest = source' ++ rest' →
    name.length ≤ name'.length

/-! ## Words and blanks -/

theorem after?_eq_some_iff {word : List Char} :
    after? word text = some rest ↔ text = word ++ rest := by
  induction word generalizing text with
  | nil => simp [after?]
  | cons w word ih =>
      cases text with
      | nil => simp [after?]
      | cons c text =>
          rw [after?, List.cons_append, List.cons.injEq]
          by_cases hc : w = c
          · rw [if_pos hc, ih]
            exact ⟨fun h => ⟨hc.symm, h⟩, fun h => h.2⟩
          · rw [if_neg hc]
            constructor
            · intro h
              cases h
            · rintro ⟨hcw, -⟩
              exact absurd hcw.symm hc

/-- Blanks are skipped up to the first character that is none. -/
theorem skipBlanks_append_cons {run : List Char} (hrun : IsBlankRun run) {c : Char}
    (hc : Text.isBlank c = false) (rest : List Char) :
    skipBlanks (run ++ c :: rest) = c :: rest := by
  unfold skipBlanks
  rw [List.dropWhile_append_of_pos hrun, List.dropWhile_cons_of_neg (by simp [hc])]

theorem exists_blanks (text : List Char) : ∃ run, IsBlankRun run ∧ text = run ++ skipBlanks text :=
  ⟨text.takeWhile Text.isBlank, fun _ hc => List.mem_takeWhile_imp hc,
    List.takeWhile_append_dropWhile.symm⟩

theorem isBlank_of_isQuote (h : IsQuote quote) : Text.isBlank quote = false := by
  rcases h with rfl | rfl
  · decide
  · decide

/-! ## The parts around a name -/

theorem afterClosing?_eq_some_iff :
    afterClosing? quote text = some rest ↔
      ∃ closing, IsClosing quote closing ∧ text = closing ++ rest := by
  simp only [afterClosing?, Option.bind_eq_bind, Option.bind_eq_some_iff, after?_eq_some_iff]
  constructor
  · rintro ⟨first, rfl, second, hsecond, hthird⟩
    obtain ⟨run, hrun, hfirst⟩ := exists_blanks first
    obtain ⟨run', hrun', hbehind⟩ := exists_blanks second
    refine ⟨[quote] ++ run ++ "]".toList ++ run' ++ "%>".toList, ⟨run, run', hrun, hrun', rfl⟩, ?_⟩
    rw [hfirst, hsecond, hbehind, hthird]
    simp
  · rintro ⟨_, ⟨run, run', hrun, hrun', rfl⟩, rfl⟩
    refine ⟨run ++ ']' :: (run' ++ '%' :: '>' :: rest), by simp, run' ++ '%' :: '>' :: rest, ?_, ?_⟩
    · exact skipBlanks_append_cons hrun (by decide) _
    · exact skipBlanks_append_cons hrun' (by decide) _

theorem afterOpening?_eq_some_iff :
    afterOpening? text = some (quote, rest) ↔
      ∃ opening, IsOpening opening quote ∧ text = opening ++ rest := by
  simp only [afterOpening?, Option.bind_eq_bind, Option.bind_eq_some_iff, after?_eq_some_iff]
  constructor
  · rintro ⟨first, rfl, second, hsecond, hopened⟩
    obtain ⟨run, hrun, hfirst⟩ := exists_blanks first
    obtain ⟨run', hrun', hbehind⟩ := exists_blanks second
    split at hopened
    · next c after hafter =>
        split at hopened
        · next hquote =>
            cases hopened
            refine ⟨"<%=".toList ++ run ++ "parameter[".toList ++ run' ++ [quote],
              ⟨by simpa [IsQuote] using hquote, run, run', hrun, hrun', rfl⟩, ?_⟩
            rw [hfirst, hsecond, hbehind, hafter]
            simp
        · cases hopened
    · cases hopened
  · rintro ⟨_, ⟨hquote, run, run', hrun, hrun', rfl⟩, rfl⟩
    refine ⟨run ++ ("parameter[".toList ++ (run' ++ quote :: rest)), by simp,
      run' ++ quote :: rest, ?_, ?_⟩
    · exact skipBlanks_append_cons hrun (by decide) _
    · rw [skipBlanks_append_cons hrun' (isBlank_of_isQuote hquote)]
      dsimp only
      rw [if_pos (by simpa [IsQuote] using hquote)]

/-! ## The name -/

theorem name?_eq_none_iff :
    name? quote text = none ↔
      ∀ name closing rest, '\n' ∉ name → IsClosing quote closing →
        text ≠ name ++ closing ++ rest := by
  induction text with
  | nil =>
      refine ⟨fun _ name closing rest _ hclosing htext => ?_, fun _ => rfl⟩
      obtain ⟨first, second, -, -, rfl⟩ := hclosing
      simp at htext
  | cons c text ih =>
      rw [name?]
      cases hclosed : afterClosing? quote (c :: text) with
      | some closed =>
          obtain ⟨closing, hclosing, htext⟩ := afterClosing?_eq_some_iff.mp hclosed
          constructor
          · intro h
            cases h
          · intro h
            exact absurd htext (h [] closing closed List.not_mem_nil hclosing)
      | none =>
          dsimp only
          -- the name is not empty, so it takes the first character
          have hfirst : ∀ closing rest, IsClosing quote closing → c :: text ≠ closing ++ rest := by
            intro closing rest hclosing htext
            rw [afterClosing?_eq_some_iff.mpr ⟨closing, hclosing, htext⟩] at hclosed
            cases hclosed
          by_cases hfeed : c = '\n'
          · rw [if_pos hfeed]
            refine ⟨fun _ name closing rest hname hclosing htext => ?_, fun _ => rfl⟩
            cases name with
            | nil => exact hfirst closing rest hclosing htext
            | cons d name =>
                cases htext
                exact hname (hfeed ▸ List.mem_cons_self)
          · rw [if_neg hfeed, Option.map_eq_none_iff, ih]
            constructor
            · intro h name closing rest hname hclosing htext
              cases name with
              | nil => exact hfirst closing rest hclosing htext
              | cons d name =>
                  cases htext
                  exact h name closing rest (fun hmem => hname (List.mem_cons_of_mem _ hmem))
                    hclosing rfl
            · intro h name closing rest hname hclosing htext
              refine h (c :: name) closing rest ?_ hclosing (by rw [htext]; rfl)
              rw [List.mem_cons, not_or]
              exact ⟨Ne.symm hfeed, hname⟩

/-- The name that is read is one behind which a closing follows. -/
theorem eq_append_of_name? {found : List Char × List Char} (h : name? quote text = some found) :
    '\n' ∉ found.1 ∧ ∃ closing, IsClosing quote closing ∧ text = found.1 ++ closing ++ found.2 := by
  induction text generalizing found with
  | nil => cases h
  | cons c text ih =>
      rw [name?] at h
      cases hclosed : afterClosing? quote (c :: text) with
      | some closed =>
          rw [hclosed] at h
          cases h
          obtain ⟨closing, hclosing, htext⟩ := afterClosing?_eq_some_iff.mp hclosed
          exact ⟨List.not_mem_nil, closing, hclosing, htext⟩
      | none =>
          rw [hclosed] at h
          dsimp only at h
          by_cases hfeed : c = '\n'
          · rw [if_pos hfeed] at h
            cases h
          · rw [if_neg hfeed] at h
            obtain ⟨inner, hinner, rfl⟩ := Option.map_eq_some_iff.mp h
            obtain ⟨hname, closing, hclosing, rfl⟩ := ih hinner
            refine ⟨?_, closing, hclosing, rfl⟩
            rw [List.mem_cons, not_or]
            exact ⟨Ne.symm hfeed, hname⟩

/-- No shorter name has a closing behind it. -/
theorem length_le_of_name? {found : List Char × List Char} (h : name? quote text = some found)
    {closing : List Char} (hclosing : IsClosing quote closing)
    (htext : text = name ++ closing ++ rest) : found.1.length ≤ name.length := by
  induction text generalizing found name with
  | nil => cases h
  | cons c text ih =>
      rw [name?] at h
      cases hclosed : afterClosing? quote (c :: text) with
      | some closed =>
          rw [hclosed] at h
          cases h
          exact Nat.zero_le _
      | none =>
          rw [hclosed] at h
          dsimp only at h
          cases name with
          | nil =>
              rw [afterClosing?_eq_some_iff.mpr ⟨closing, hclosing, htext⟩] at hclosed
              cases hclosed
          | cons d name =>
              cases htext
              by_cases hfeed : c = '\n'
              · rw [if_pos hfeed] at h
                cases h
              · rw [if_neg hfeed] at h
                obtain ⟨inner, hinner, rfl⟩ := Option.map_eq_some_iff.mp h
                exact Nat.succ_le_succ (ih hinner rfl)

/-- A name is read if a closing follows it and no shorter name has one behind it. -/
theorem name?_of_shortest {closing : List Char} (hname : '\n' ∉ name)
    (hclosing : IsClosing quote closing)
    (hshortest : ∀ other closing' rest', '\n' ∉ other → IsClosing quote closing' →
      name ++ closing ++ rest = other ++ closing' ++ rest' → name.length ≤ other.length) :
    name? quote (name ++ closing ++ rest) = some (name, rest) := by
  induction name with
  | nil =>
      have hclosed : afterClosing? quote (closing ++ rest) = some rest :=
        afterClosing?_eq_some_iff.mpr ⟨closing, hclosing, rfl⟩
      obtain ⟨first, second, -, -, rfl⟩ := hclosing
      simp only [List.nil_append, List.cons_append] at hclosed ⊢
      rw [name?, hclosed]
  | cons c name ih =>
      rw [List.mem_cons, not_or] at hname
      have hopen : afterClosing? quote (c :: (name ++ closing ++ rest)) = none := by
        rw [Option.eq_none_iff_forall_ne_some]
        intro rest' hclosed
        obtain ⟨closing', hclosing', heq⟩ := afterClosing?_eq_some_iff.mp hclosed
        exact absurd (hshortest [] closing' rest' List.not_mem_nil hclosing' heq)
          (Nat.not_succ_le_zero _)
      have hshorter : name? quote (name ++ closing ++ rest) = some (name, rest) := by
        refine ih hname.2 fun other closing' rest' hother hclosing' heq => ?_
        refine Nat.le_of_succ_le_succ (hshortest (c :: other) closing' rest' ?_ hclosing' ?_)
        · rw [List.mem_cons, not_or]
          exact ⟨hname.1, hother⟩
        · exact congrArg (c :: ·) heq
      rw [List.cons_append, List.cons_append, name?, hopen]
      dsimp only
      rw [if_neg (Ne.symm hname.1), hshorter, Option.map_some]

/-! ## The placeholder -/

theorem placeholder?_eq_none_iff : placeholder? text = none ↔ ¬ BeginsForm text := by
  simp only [placeholder?, Option.bind_eq_bind]
  cases hopened : afterOpening? text with
  | none =>
      refine ⟨fun _ => ?_, fun _ => rfl⟩
      rintro ⟨_, name, rest, ⟨quote, opening, closing, hopening, -, -, rfl⟩, htext⟩
      rw [afterOpening?_eq_some_iff.mpr ⟨opening, hopening, by simpa using htext⟩] at hopened
      cases hopened
  | some opened =>
      obtain ⟨quote, behind⟩ := opened
      rw [Option.bind_some, name?_eq_none_iff]
      constructor
      · rintro h ⟨_, name, rest, ⟨quote', opening, closing, hopening, hname, hclosing, rfl⟩, htext⟩
        rw [afterOpening?_eq_some_iff.mpr ⟨opening, hopening, by simpa using htext⟩] at hopened
        cases hopened
        exact h name closing rest hname hclosing (by simp)
      · rintro h name closing rest hname hclosing rfl
        obtain ⟨opening, hopening, rfl⟩ := afterOpening?_eq_some_iff.mp hopened
        exact h ⟨_, name, rest, ⟨quote, opening, closing, hopening, hname, hclosing, rfl⟩, by simp⟩

theorem isPlaceholder_of_placeholder? {found : List Char × List Char}
    (h : placeholder? text = some found) :
    ∃ source, text = source ++ found.2 ∧ IsPlaceholder source found.1 found.2 := by
  simp only [placeholder?, Option.bind_eq_bind, Option.bind_eq_some_iff] at h
  obtain ⟨⟨quote, behind⟩, hopened, hname⟩ := h
  obtain ⟨opening, hopening, rfl⟩ := afterOpening?_eq_some_iff.mp hopened
  obtain ⟨hfeed, closing, hclosing, hbehind⟩ := eq_append_of_name? hname
  dsimp only at hname hbehind
  have htext : opening ++ behind = opening ++ found.1 ++ closing ++ found.2 := by
    rw [hbehind]
    simp only [List.append_assoc]
  refine ⟨opening ++ found.1 ++ closing, htext, ?_, ?_⟩
  · exact ⟨quote, opening, closing, hopening, hfeed, hclosing, rfl⟩
  · rintro _ other rest' ⟨quote', opening', closing', hopening', -, hclosing', rfl⟩ hother
    -- the opening of any other placeholder is the one that was read
    have hopened' : opening ++ behind = opening' ++ (other ++ closing' ++ rest') := by
      rw [htext, hother]
      simp only [List.append_assoc]
    rw [afterOpening?_eq_some_iff.mpr ⟨opening', hopening', hopened'⟩] at hopened
    cases hopened
    exact length_le_of_name? hname hclosing' rfl

/-- What the scanner reads at the start of a text is the placeholder that stands there. -/
theorem placeholder?_of_isPlaceholder {source : List Char} (h : IsPlaceholder source name rest) :
    placeholder? (source ++ rest) = some (name, rest) := by
  obtain ⟨quote, opening, closing, hopening, hname, hclosing, rfl⟩ := h.form
  have htext : opening ++ name ++ closing ++ rest = opening ++ (name ++ closing ++ rest) := by
    simp only [List.append_assoc]
  simp only [placeholder?, Option.bind_eq_bind]
  rw [afterOpening?_eq_some_iff.mpr ⟨opening, hopening, htext⟩, Option.bind_some]
  refine name?_of_shortest hname hclosing fun other closing' rest' hother hclosing' heq => ?_
  refine h.shortest (opening ++ other ++ closing') other rest'
    ⟨quote, opening, closing', hopening, hother, hclosing', rfl⟩ ?_
  rw [htext, heq]
  simp only [List.append_assoc]

end QueryBridge.Template
