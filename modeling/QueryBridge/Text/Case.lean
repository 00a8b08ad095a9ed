import QueryBridge.Text.CaseTable
import QueryBridge.Text.Range

/-!
# Small and capital letters

`lower` is the full lower-case mapping: every capital becomes its small letter,
the dotted capital I becomes `i` with a combining dot, and a capital sigma takes
its final form at the end of a word.  A surrogate has no case, and a word does not
go on across it.

`asciiCapital` is the capital form as far as it is an ASCII letter.  It serves to
recognise names that consist of ASCII capitals.
-/

namespace QueryBridge.Text

private def isCaseIgnorable (code : Nat) : Bool :=
  inRanges caseIgnorableRanges code

private def isCased (code : Nat) : Bool :=
  inRanges casedRanges code

/-- Whether the first character that is not looked through is a cased letter. -/
private def meetsCased (codes : List Nat) : Bool :=
  ((codes.dropWhile isCaseIgnorable).head?.map isCased).getD false

/-! ## Lower case -/

private def CaseRun.contains (run : CaseRun) (code : Nat) : Bool :=
  run.first ≤ code && code ≤ run.last && (code - run.first) % run.step == 0

/-- The small form of a character that stands alone. -/
def lowerChar (c : Char) : List Char :=
  if c.toNat < 0x80 then
    [c.toLower]
  else if c = 'İ' then
    ['i', '\u0307']
  else
    match capitalRuns.find? (·.contains c.toNat) with
    | some run => [Char.ofNat (c.toNat + run.distance).toNat]
    | none => [c]

/-- A small form is that of ASCII, that of the dotted I or that of a run; or nothing changes. -/
theorem lowerChar_cases (c : Char) :
    (c.toNat < 0x80 ∧ lowerChar c = [c.toLower]) ∨
      (c = 'İ' ∧ lowerChar c = ['i', '\u0307']) ∨
      (∃ run ∈ capitalRuns, 0x80 ≤ c.toNat ∧ run.first ≤ c.toNat ∧
        lowerChar c = [Char.ofNat (c.toNat + run.distance).toNat]) ∨
      lowerChar c = [c] := by
  unfold lowerChar
  split
  · next hascii => exact Or.inl ⟨hascii, rfl⟩
  · next hascii =>
    split
    · next hdotted => exact Or.inr (Or.inl ⟨hdotted, rfl⟩)
    · split
      · next run hrun =>
        have hcontains : run.contains c.toNat = true := by simpa using List.find?_some hrun
        simp only [CaseRun.contains, Bool.and_eq_true, decide_eq_true_eq] at hcontains
        exact Or.inr (Or.inr (Or.inl ⟨run, List.mem_of_find?_eq_some hrun, Nat.not_lt.mp hascii,
          hcontains.1.1, rfl⟩))
      · exact Or.inr (Or.inr (Or.inr rfl))

def lowerCode (code : Nat) : List Nat :=
  if code.isValidChar then (lowerChar (Char.ofNat code)).map Char.toNat else [code]

/-- A sigma is final if a cased letter comes before it and none comes after. -/
private def lowerFrom (before : List Nat) : List Nat → List Nat
  | [] => []
  | code :: rest =>
      let small :=
        if code = 'Σ'.toNat then
          if meetsCased before && !meetsCased rest then ['ς'.toNat] else ['σ'.toNat]
        else
          lowerCode code
      small ++ lowerFrom (code :: before) rest

def lowerCodes (codes : List Nat) : List Nat :=
  lowerFrom [] codes

def lower (text : String) : String :=
  String.ofList ((lowerCodes (text.toList.map Char.toNat)).map Char.ofNat)

theorem lowerCode_toNat (c : Char) : lowerCode c.toNat = (lowerChar c).map Char.toNat := by
  have hvalid : c.toNat.isValidChar := c.valid
  rw [lowerCode, if_pos hvalid, Char.ofNat_toNat]

private theorem mem_lowerFrom {code : Nat} {before codes : List Nat}
    (h : code ∈ lowerFrom before codes) :
    (∃ other ∈ codes, code ∈ lowerCode other) ∨ code = 'ς'.toNat ∨ code = 'σ'.toNat := by
  induction codes generalizing before with
  | nil => exact absurd h List.not_mem_nil
  | cons other rest ih =>
      rw [lowerFrom] at h
      rcases List.mem_append.mp h with h | h
      · split at h
        · split at h
          · exact Or.inr (Or.inl (List.mem_singleton.mp h))
          · exact Or.inr (Or.inr (List.mem_singleton.mp h))
        · exact Or.inl ⟨other, List.mem_cons_self, h⟩
      · rcases ih h with ⟨next, hnext, hcode⟩ | hsigma
        · exact Or.inl ⟨next, List.mem_cons_of_mem other hnext, hcode⟩
        · exact Or.inr hsigma

private theorem mem_lowerFrom_of_mem {code other : Nat} (before : List Nat) {codes : List Nat}
    (hother : other ∈ codes) (hsigma : other ≠ 'Σ'.toNat) (h : code ∈ lowerCode other) :
    code ∈ lowerFrom before codes := by
  induction codes generalizing before with
  | nil => exact absurd hother List.not_mem_nil
  | cons next rest ih =>
      rw [lowerFrom]
      rcases List.mem_cons.mp hother with rfl | hrest
      · rw [if_neg hsigma]
        exact List.mem_append_left _ h
      · exact List.mem_append_right _ (ih (next :: before) hrest)

/-- The small form of code points is made of those of each, but for the sigmas. -/
theorem mem_lowerCodes {code : Nat} {codes : List Nat} (h : code ∈ lowerCodes codes) :
    (∃ other ∈ codes, code ∈ lowerCode other) ∨ code = 'ς'.toNat ∨ code = 'σ'.toNat :=
  mem_lowerFrom h

theorem mem_lowerCodes_of_mem {code other : Nat} {codes : List Nat} (hother : other ∈ codes)
    (hsigma : other ≠ 'Σ'.toNat) (h : code ∈ lowerCode other) : code ∈ lowerCodes codes :=
  mem_lowerFrom_of_mem [] hother hsigma h

private theorem isValidChar_of_mem_lowerFrom {code : Nat} (before : List Nat) {text : List Char}
    (h : code ∈ lowerFrom before (text.map Char.toNat)) : code.isValidChar := by
  rcases mem_lowerFrom h with ⟨other, hother, hcode⟩ | rfl | rfl
  · obtain ⟨c, -, rfl⟩ := List.mem_map.mp hother
    rw [lowerCode_toNat] at hcode
    obtain ⟨small, -, rfl⟩ := List.mem_map.mp hcode
    exact small.valid
  · exact Char.valid _
  · exact Char.valid _

/-- The small form of a text is a text. -/
theorem map_toNat_lower (text : String) :
    (lower text).toList.map Char.toNat = lowerCodes (text.toList.map Char.toNat) := by
  rw [lower, String.toList_ofList, List.map_map]
  refine Eq.trans (List.map_congr_left fun code hcode => ?_) (List.map_id _)
  have hvalid : code.isValidChar := isValidChar_of_mem_lowerFrom [] hcode
  rw [Function.comp_apply, Char.ofNat, dif_pos hvalid]
  rfl

/-! ## ASCII capitals -/

/-- Beside the small ASCII letters, the dotless i and the long s have an ASCII
capital. -/
def asciiCapital (c : Char) : Char :=
  if c = 'ı' then 'I' else if c = 'ſ' then 'S' else c.toUpper

end QueryBridge.Text
