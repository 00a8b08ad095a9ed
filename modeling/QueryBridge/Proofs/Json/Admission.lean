import QueryBridge.Json.Reader
import QueryBridge.Proofs.Fields
import QueryBridge.Proofs.Json.Parts

/-!
# What is read from documents

Longer integers are refused where they are read, a name that an object repeats is kept once, and
nothing nests deeper than is admitted.
-/

namespace QueryBridge.Json

/-! ## Depth -/

namespace Value

theorem depthOfItems_le_iff {items : List Value} {n : Nat} :
    depthOfItems items ≤ n ↔ ∀ item ∈ items, item.depth ≤ n := by
  induction items with
  | nil => simp [depthOfItems]
  | cons item items ih => rw [depthOfItems, Nat.max_le, ih, List.forall_mem_cons]

theorem depthOfFields_le_iff {fields : Members} {n : Nat} :
    depthOfFields fields ≤ n ↔ ∀ field ∈ fields, field.2.depth ≤ n := by
  induction fields with
  | nil => simp [depthOfFields]
  | cons field fields ih => rw [depthOfFields, Nat.max_le, ih, List.forall_mem_cons]

/-- The value can be read inside so many open arrays and objects. -/
structure Fits (levels around : Nat) (value : Value) : Prop where
  admitted : value.Everywhere IsAdmitted
  depth_le : around + value.depth ≤ levels

variable {levels around : Nat}

theorem fits_array {items : List Value} (haround : around + 1 ≤ levels)
    (h : ∀ item ∈ items, item.Fits levels (around + 1)) : (array items).Fits levels around where
  admitted := everywhere_array_iff.mpr ⟨trivial, fun item hitem => (h item hitem).admitted⟩
  depth_le := by
    have hdepth : depthOfItems items ≤ levels - (around + 1) := by
      refine depthOfItems_le_iff.mpr fun item hitem => ?_
      have := (h item hitem).depth_le
      omega
    rw [depth]
    omega

theorem fits_object {fields : Members} (haround : around + 1 ≤ levels)
    (hnames : (Fields.names fields).Nodup)
    (h : ∀ field ∈ fields, field.2.Fits levels (around + 1)) :
    (object fields).Fits levels around where
  admitted := everywhere_object_iff.mpr ⟨hnames, fun field hfield => (h field hfield).admitted⟩
  depth_le := by
    have hdepth : depthOfFields fields ≤ levels - (around + 1) := by
      refine depthOfFields_le_iff.mpr fun field hfield => ?_
      have := (h field hfield).depth_le
      omega
    rw [depth]
    omega

end Value

/-! ## Tokens -/

namespace Token

/-- The value is an admitted scalar. -/
def IsAtom (value : Value) : Prop :=
  value.parts = [value] ∧ value.IsAdmitted ∧ value.depth = 0

theorem IsAtom.fits {value : Value} (h : IsAtom value) {levels around : Nat}
    (haround : around ≤ levels) : value.Fits levels around :=
  ⟨Value.everywhere_of_parts h.1 h.2.1, h.2.2.symm ▸ haround⟩

theorem isAtom_ofString (string : CodeString) : IsAtom (.ofString string) := by
  cases string <;> exact ⟨rfl, trivial, rfl⟩

theorem isAtom_of_word? {text : List Char} {found : Value × List Char}
    (h : word? text = some found) : IsAtom found.1 := by
  obtain ⟨word, hword, h⟩ := List.exists_of_findSome?_eq_some h
  obtain ⟨rest, -, rfl⟩ := Option.map_eq_some_iff.mp h
  simp only [words, List.mem_cons, List.not_mem_nil, or_false] at hword
  rcases hword with rfl | rfl | rfl | rfl | rfl | rfl <;> exact ⟨rfl, trivial, rfl⟩

theorem isAtom_of_number? {text : List Char} {found : Value × List Char}
    (h : number? text = some found) : IsAtom found.1 := by
  rcases number?_cases h with ⟨number, hnumber, heq⟩ | ⟨number, heq⟩
  · rw [heq]
    exact ⟨rfl, hnumber, rfl⟩
  · rw [heq]
    exact ⟨rfl, trivial, rfl⟩

theorem isAtom_of_next? {text : List Sign} {found : Token × List Sign}
    (h : next? text = some found) {value : Value} (hvalue : found.1 = .scalar value) :
    IsAtom value := by
  unfold next? at h
  split at h
  case h_7 =>
      obtain ⟨units, -, rfl⟩ := Option.map_eq_some_iff.mp h
      cases hvalue
      exact isAtom_ofString _
  case h_8 =>
      obtain ⟨plain, hplain, rfl⟩ := Option.map_eq_some_iff.mp h
      cases hvalue
      obtain ⟨run, hrun, rfl⟩ := Option.map_eq_some_iff.mp hplain
      rcases Option.or_eq_some_iff.mp hrun with hword | ⟨-, hnumber⟩
      · exact isAtom_of_word? hword
      · exact isAtom_of_number? hnumber
  -- the other tokens are no scalars
  all_goals
    cases h
    cases hvalue

end Token

/-! ## The machine -/

/-- The values that an open container holds so far fit into it, and its names differ. -/
def Frame.Fits (levels around : Nat) : Frame → Prop
  | .items held => ∀ item ∈ held, item.Fits levels around
  | .fields held | .field held _ =>
      (Fields.names held).Nodup ∧ ∀ field ∈ held, field.2.Fits levels around

namespace Machine

variable {levels : Nat}

/-- Every open container holds what fits into it. -/
def StackFits (levels : Nat) : List Frame → Prop
  | [] => True
  | frame :: stack =>
      stack.length + 1 ≤ levels ∧ frame.Fits levels (stack.length + 1) ∧ StackFits levels stack

/-- All values that the machine holds fit. -/
def Fits (levels : Nat) : Machine → Prop
  | .running stack _ => StackFits levels stack
  | .finished value => value.Fits levels 0

variable {stack : List Frame} {awaits : Awaits} {token : Token} {next : Machine}

theorem length_le_of_stackFits (h : StackFits levels stack) : stack.length ≤ levels := by
  cases stack with
  | nil => exact Nat.zero_le levels
  | cons frame stack => exact h.1

theorem fits_of_deliver {value : Value} (h : deliver value stack = some next)
    (hvalue : value.Fits levels stack.length) (hstack : StackFits levels stack) :
    next.Fits levels := by
  cases stack with
  | nil =>
      cases h
      exact hvalue
  | cons frame stack =>
      obtain ⟨hlength, hframe, hothers⟩ := hstack
      cases frame with
      | items items =>
          cases h
          exact ⟨hlength, List.forall_mem_cons.mpr ⟨hvalue, hframe⟩, hothers⟩
      | fields fields => cases h
      | field fields name =>
          cases h
          refine ⟨hlength, ⟨Fields.nodup_names_insert hframe.1 name value, ?_⟩, hothers⟩
          intro field hfield
          rcases Fields.mem_of_mem_insert hfield with rfl | hfield
          · exact hvalue
          · exact hframe.2 field hfield

theorem fits_of_closeArray {items : List Value}
    (h : deliver (.array items.reverse) stack = some next)
    (hstack : StackFits levels (.items items :: stack)) : next.Fits levels := by
  obtain ⟨hlength, hitems, hothers⟩ := hstack
  refine fits_of_deliver h (Value.fits_array hlength fun item hitem => ?_) hothers
  exact hitems item (List.mem_reverse.mp hitem)

theorem fits_of_closeObject {fields : Members}
    (h : deliver (.object fields) stack = some next)
    (hstack : StackFits levels (.fields fields :: stack)) : next.Fits levels := by
  obtain ⟨hlength, ⟨hnames, hfields⟩, hothers⟩ := hstack
  exact fits_of_deliver h (Value.fits_object hlength hnames hfields) hothers

theorem fits_of_beginsValue (h : beginsValue stack token = some next)
    (hdepth : next.depth ≤ levels) (htoken : ∀ value, token = .scalar value → Token.IsAtom value)
    (hstack : StackFits levels stack) : next.Fits levels := by
  cases token with
  | openArray =>
      cases h
      exact ⟨hdepth, List.forall_mem_nil _, hstack⟩
  | openObject =>
      cases h
      exact ⟨hdepth, ⟨List.nodup_nil, List.forall_mem_nil _⟩, hstack⟩
  | scalar value =>
      exact fits_of_deliver h ((htoken value rfl).fits (length_le_of_stackFits hstack)) hstack
  | closeArray | closeObject | comma | colon => cases h

theorem fits_of_beginsField (h : beginsField stack token = some next)
    (hstack : StackFits levels stack) : next.Fits levels := by
  unfold beginsField at h
  split at h
  · obtain ⟨name, -, rfl⟩ := Option.map_eq_some_iff.mp h
    exact hstack
  · cases h

theorem fits_of_step {machine : Machine} (h : machine.step token = some next)
    (hdepth : next.depth ≤ levels) (htoken : ∀ value, token = .scalar value → Token.IsAtom value)
    (hmachine : machine.Fits levels) : next.Fits levels := by
  unfold step at h
  split at h
  · cases h
  split at h
  -- a value begins, behind the opening of an array or not
  case h_1 | h_3 => exact fits_of_beginsValue h hdepth htoken hmachine
  case h_2 | h_10 => exact fits_of_closeArray h hmachine
  case h_4 | h_11 => exact fits_of_closeObject h hmachine
  case h_5 | h_6 => exact fits_of_beginsField h hmachine
  -- a separator leaves what is held
  case h_7 | h_8 | h_9 =>
      cases h
      exact hmachine
  case h_12 => cases h

theorem stepWithin_eq_ok_iff {machine : Machine} :
    machine.stepWithin levels token = .ok next ↔
      machine.step token = some next ∧ next.depth ≤ levels := by
  unfold stepWithin
  cases machine.step token with
  | none => simp
  | some found =>
      by_cases h : levels < found.depth
      · simp only [if_pos h, Option.some.injEq, reduceCtorEq, false_iff, not_and, not_le]
        rintro rfl
        exact h
      · simp only [if_neg h, Except.ok.injEq, Option.some.injEq]
        refine ⟨?_, And.left⟩
        rintro rfl
        exact ⟨rfl, Nat.le_of_not_lt h⟩

theorem fits_of_result {machine : Machine} {value : Value} (h : machine.result = .ok value)
    (hmachine : machine.Fits levels) : value.Fits levels 0 := by
  cases machine with
  | running stack awaits => cases h
  | finished found =>
      cases h
      exact hmachine

/-- Whatever is read, the machine holds only what fits. -/
theorem fits_of_readFrom {fuel : Nat} {machine : Machine} {text : List Sign} {value : Value}
    (h : machine.readFrom levels fuel text = .ok value) (hmachine : machine.Fits levels) :
    value.Fits levels 0 := by
  induction fuel generalizing machine text with
  | zero =>
      rw [readFrom] at h
      split at h
      · exact fits_of_result h hmachine
      · cases h
  | succ fuel ih =>
      rw [readFrom] at h
      split at h
      · exact fits_of_result h hmachine
      split at h
      · cases h
      · next found hnext =>
          cases hstep : machine.stepWithin levels found.1 with
          | error fault =>
              rw [hstep] at h
              cases h
          | ok next =>
              rw [hstep] at h
              obtain ⟨hstep, hdepth⟩ := stepWithin_eq_ok_iff.mp hstep
              exact ih h (fits_of_step hstep hdepth
                (fun _ hvalue => Token.isAtom_of_next? hnext hvalue) hmachine)

/-- What can be read with some bound is read with another one, unless that is met. -/
theorem readFrom_of_eq_ok {fuel limit : Nat} {machine : Machine} {text : List Sign} {value : Value}
    (h : machine.readFrom limit fuel text = .ok value) (levels : Nat) :
    machine.readFrom levels fuel text = .ok value ∨
      machine.readFrom levels fuel text = .error .tooDeep := by
  induction fuel generalizing machine text with
  | zero => exact Or.inl h
  | succ fuel ih =>
      rw [readFrom] at h ⊢
      split at h
      · exact Or.inl h
      split at h
      · cases h
      · next found _ =>
          cases hstep : machine.stepWithin limit found.1 with
          | error fault =>
              rw [hstep] at h
              cases h
          | ok next =>
              rw [hstep] at h
              have hnext := (stepWithin_eq_ok_iff.mp hstep).1
              -- the step itself does not depend on the bound, only whether it is taken
              by_cases hdepth : next.depth ≤ levels
              · rw [stepWithin_eq_ok_iff.mpr ⟨hnext, hdepth⟩]
                exact ih h
              · right
                rw [stepWithin, hnext]
                dsimp only
                rw [if_pos (Nat.lt_of_not_le hdepth)]
                rfl

end Machine

/-- A document that is read holds integers of an admitted size only, repeats no name, and nests no
deeper than is admitted. -/
theorem fits_of_read {levels : Nat} {document : List Sign} {value : Value}
    (h : read levels document = .ok value) : value.Fits levels 0 :=
  Machine.fits_of_readFrom h trivial

theorem fits_of_readBytes {levels : Nat} {bytes : List UInt8} {value : Value}
    (h : readBytes levels bytes = .ok value) : value.Fits levels 0 := by
  unfold readBytes at h
  split at h
  · cases h
  · exact fits_of_read h

theorem readBytes_of_eq_ok {limit : Nat} {bytes : List UInt8} {value : Value}
    (h : readBytes limit bytes = .ok value) (levels : Nat) :
    readBytes levels bytes = .ok value ∨ readBytes levels bytes = .error .tooDeep := by
  unfold readBytes at h ⊢
  split at h
  · cases h
  · exact Machine.readFrom_of_eq_ok h levels

end QueryBridge.Json
