import QueryBridge.Proofs.Text.Percent
import QueryBridge.Url.Basic

/-!
# Segments of a path

A path without dot segments is its own normal form.  A dot segment at the end takes itself
away, and two dots the segment before them as well.  Encoding a path changes no dots, so it
neither makes a dot segment nor hides one.
-/

namespace QueryBridge.Url

open QueryBridge.Text (splitOn)
open QueryBridge.Text.Percent (encodeExcept)

/-- The segment is dropped from a path. -/
def IsDots (segment : List Char) : Prop :=
  segment = ['.'] ∨ segment = ['.', '.']

instance (segment : List Char) : Decidable (IsDots segment) :=
  inferInstanceAs (Decidable (_ ∨ _))

/-- No segment of the path is dropped. -/
def IsDotless (path : List Char) : Prop :=
  ∀ segment ∈ splitOn '/' path, ¬ IsDots segment

instance (path : List Char) : Decidable (IsDotless path) :=
  inferInstanceAs (Decidable (∀ segment ∈ splitOn '/' path, _))

theorem isDotless_nil : IsDotless [] := by decide

theorem isDotless_append_slash_iff {first rest : List Char} :
    IsDotless (first ++ '/' :: rest) ↔ IsDotless first ∧ IsDotless rest := by
  unfold IsDotless
  rw [Text.splitOn_append_separator, List.forall_mem_append]

/-- A single segment. -/
theorem isDotless_of_not_mem {segment : List Char} (h : '/' ∉ segment) (hdots : ¬ IsDots segment) :
    IsDotless segment := by
  unfold IsDotless
  rw [Text.splitOn_of_not_mem h]
  exact List.forall_mem_singleton.mpr hdots

/-! ## Normal paths -/

/-- Segments that are no dots are kept. -/
theorem dropDotSegments_append {segments : List (List Char)}
    (h : ∀ segment ∈ segments, ¬ IsDots segment) (kept more : List (List Char)) :
    dropDotSegments kept (segments ++ more) = dropDotSegments (segments.reverse ++ kept) more := by
  induction segments generalizing kept with
  | nil => rfl
  | cons segment segments ih =>
      obtain ⟨hsegment, hsegments⟩ := List.forall_mem_cons.mp h
      rw [IsDots, not_or] at hsegment
      rw [List.cons_append, dropDotSegments, if_neg hsegment.1, if_neg hsegment.2, ih hsegments,
        List.reverse_cons, List.append_assoc, List.singleton_append]

theorem normalPath_of_isDotless {path : List Char} (h : IsDotless path) :
    normalPath path = path := by
  have hkept := dropDotSegments_append h [] []
  rw [List.append_nil, List.append_nil] at hkept
  rw [normalPath, hkept, dropDotSegments, List.reverse_reverse]
  exact Text.intercalate_splitOn '/' path

/-- A dot at the end of a path is dropped with its slash. -/
theorem normalPath_append_dot {path : List Char} (h : IsDotless path) :
    normalPath (path ++ ['/', '.']) = path := by
  have hsplit : splitOn '/' (path ++ ['/', '.']) = splitOn '/' path ++ [['.']] :=
    Text.splitOn_append_separator '/' path ['.']
  rw [normalPath, hsplit, dropDotSegments_append h, List.append_nil, dropDotSegments, if_pos rfl,
    dropDotSegments, List.reverse_reverse]
  exact Text.intercalate_splitOn '/' path

/-- Two dots at the end of a path take the segment before them along. -/
theorem normalPath_append_dots {path segment : List Char} (h : IsDotless path)
    (hslash : '/' ∉ segment) (hsegment : ¬ IsDots segment) :
    normalPath (path ++ '/' :: segment ++ ['/', '.', '.']) = path := by
  have hsplit : splitOn '/' (path ++ '/' :: segment ++ ['/', '.', '.']) =
      (splitOn '/' path ++ [segment]) ++ [['.', '.']] := by
    rw [Text.splitOn_append_separator '/' _ ['.', '.'], Text.splitOn_append_separator,
      Text.splitOn_of_not_mem hslash]
    rfl
  have hkept : ∀ kept ∈ splitOn '/' path ++ [segment], ¬ IsDots kept := by
    rw [List.forall_mem_append]
    exact ⟨h, List.forall_mem_singleton.mpr hsegment⟩
  -- two segments at least are kept, so the last of them can be dropped
  have hmore : segment :: (splitOn '/' path).reverse ≠ [[]] := by
    intro heq
    rw [List.cons.injEq, List.reverse_eq_nil_iff] at heq
    exact Text.splitOn_ne_nil '/' path heq.2
  rw [normalPath, hsplit, dropDotSegments_append hkept, List.append_nil, List.reverse_append,
    List.reverse_singleton, List.singleton_append, dropDotSegments, if_neg (by decide), if_pos rfl,
    if_neg hmore, dropDotSegments, List.drop_one, List.tail_cons, List.reverse_reverse]
  exact Text.intercalate_splitOn '/' path

/-! ## Characters -/

theorem mem_of_mem_dropDotSegments {kept segments : List (List Char)} {segment : List Char}
    (h : segment ∈ dropDotSegments kept segments) : segment ∈ kept ∨ segment ∈ segments := by
  induction segments generalizing kept with
  | nil => exact Or.inl (List.mem_reverse.mp h)
  | cons first segments ih =>
      rw [dropDotSegments] at h
      split at h
      · rcases ih h with hkept | hrest
        · exact Or.inl hkept
        · exact Or.inr (List.mem_cons_of_mem first hrest)
      split at h
      · rcases ih h with hkept | hrest
        · split at hkept
          · exact Or.inl hkept
          · exact Or.inl (List.mem_of_mem_drop hkept)
        · exact Or.inr (List.mem_cons_of_mem first hrest)
      · rcases ih h with hkept | hrest
        · rcases List.mem_cons.mp hkept with rfl | hkept
          · exact Or.inr List.mem_cons_self
          · exact Or.inl hkept
        · exact Or.inr (List.mem_cons_of_mem first hrest)

/-- Putting a path into normal form adds no characters. -/
theorem mem_normalPath {path : List Char} {c : Char} (h : c ∈ normalPath path) :
    c = '/' ∨ c ∈ path := by
  rcases Text.mem_intercalate h with hslash | ⟨segment, hsegment, hc⟩
  · exact Or.inl hslash
  · rcases mem_of_mem_dropDotSegments hsegment with hkept | hsegment
    · exact absurd hkept List.not_mem_nil
    · exact Or.inr (Text.mem_of_mem_splitOn hsegment hc)

/-! ## Lengths -/

/-- The length of the segments with a slash for each. -/
def weight : List (List Char) → Nat
  | [] => 0
  | segment :: segments => segment.length + 1 + weight segments

theorem weight_append (first second : List (List Char)) :
    weight (first ++ second) = weight first + weight second := by
  induction first with
  | nil => exact (Nat.zero_add _).symm
  | cons segment first ih => rw [List.cons_append, weight, weight, ih, ← Nat.add_assoc]

theorem weight_reverse (segments : List (List Char)) :
    weight segments.reverse = weight segments := by
  induction segments with
  | nil => rfl
  | cons segment segments ih =>
      rw [List.reverse_cons, weight_append, ih, Nat.add_comm]
      rfl

theorem weight_drop_le (segments : List (List Char)) :
    weight (segments.drop 1) ≤ weight segments := by
  cases segments with
  | nil => exact Nat.le_refl _
  | cons segment segments =>
      rw [weight]
      exact Nat.le_add_left _ _

theorem weight_dropDotSegments_le (kept segments : List (List Char)) :
    weight (dropDotSegments kept segments) ≤ weight kept + weight segments := by
  induction segments generalizing kept with
  | nil =>
      rw [dropDotSegments, weight_reverse]
      exact Nat.le_add_right _ _
  | cons segment segments ih =>
      have hcons : weight (segment :: segments) = segment.length + 1 + weight segments := rfl
      rw [dropDotSegments]
      split
      · have hdropped := ih kept
        omega
      split
      · have hparent : weight (if kept = [[]] then kept else kept.drop 1) ≤ weight kept := by
          split
          · exact Nat.le_refl _
          · exact weight_drop_le kept
        have hdropped := ih (if kept = [[]] then kept else kept.drop 1)
        omega
      · have hpushed := ih (segment :: kept)
        rw [weight] at hpushed
        omega

theorem length_joinSegments {segments : List (List Char)} (h : segments ≠ []) :
    (joinSegments segments).length + 1 = weight segments := by
  induction segments with
  | nil => exact absurd rfl h
  | cons segment segments ih =>
      rw [joinSegments, weight]
      cases segments with
      | nil => rw [List.intercalate_singleton]; rfl
      | cons next others =>
          have hrest := ih (List.cons_ne_nil next others)
          rw [joinSegments] at hrest
          rw [List.intercalate_cons_cons, List.length_append, List.length_append,
            List.length_singleton]
          omega

/-- Putting a path into normal form makes it no longer. -/
theorem length_normalPath_le (path : List Char) : (normalPath path).length ≤ path.length := by
  have hpath : path.length + 1 = weight (splitOn '/' path) := by
    rw [← length_joinSegments (Text.splitOn_ne_nil '/' path), joinSegments,
      Text.intercalate_splitOn]
  have hdropped := weight_dropDotSegments_le [] (splitOn '/' path)
  rw [normalPath]
  by_cases hnone : dropDotSegments [] (splitOn '/' path) = []
  · rw [hnone]
    exact Nat.zero_le _
  · have hjoined := length_joinSegments hnone
    have hzero : weight [] = 0 := rfl
    omega

/-! ## Encoded paths -/

theorem isDots_encodeExcept_iff {isSafe : Char → Bool} (hsafe : isSafe '.' = true)
    {segment : List Char} : IsDots (encodeExcept isSafe segment) ↔ IsDots segment := by
  have hkeeps : ∀ dots : List Char, (∀ c ∈ dots, c = '.') →
      (encodeExcept isSafe segment = dots ↔ segment = dots) := by
    intro dots hdots
    constructor
    · intro heq
      have hpercent : '%' ∉ encodeExcept isSafe segment := by
        rw [heq]
        intro hmem
        exact absurd (hdots '%' hmem) (by decide)
      rw [Text.Percent.encodeExcept_of_not_mem_percent hpercent] at heq
      exact heq
    · rintro rfl
      refine Text.Percent.encodeExcept_of_isSafe fun c hc => ?_
      rw [hdots c hc]
      exact hsafe
  unfold IsDots
  rw [hkeeps ['.'] (by simp), hkeeps ['.', '.'] (by simp)]

theorem isDotless_encodeExcept_iff {isSafe : Char → Bool} (hdot : isSafe '.' = true)
    (hslash : isSafe '/' = true) {path : List Char} :
    IsDotless (encodeExcept isSafe path) ↔ IsDotless path := by
  unfold IsDotless
  rw [Text.Percent.splitOn_encodeExcept hslash (by decide) (by decide), List.forall_mem_map]
  simp only [isDots_encodeExcept_iff hdot]

end QueryBridge.Url
