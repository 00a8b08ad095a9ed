import QueryBridge.Datum
import QueryBridge.Proofs.Json.Number

/-!
# Keys and texts of values

A key that is a text is found where it stands first.  A value has a text unless something in it
cannot be shown.
-/

namespace QueryBridge.Datum

/-- The first entry under a key that is a text has the value. -/
def Holds (entries : List (Datum × Datum)) (key : String) (value : Datum) : Prop :=
  ∃ before after, entries = before ++ (.text key, value) :: after ∧
    ∀ entry ∈ before, entry.1 ≠ .text key

/-! ## Keys -/

theorem sameKey_text_iff {other : Datum} {key : String} :
    other.sameKey (.text key) = true ↔ other = .text key := by
  cases other <;> simp [sameKey, number?, kindName]

theorem get?_eq_some_iff {entries : List (Datum × Datum)} {key : String} {value : Datum} :
    get? entries key = some value ↔ Holds entries key value := by
  unfold get? Holds
  rw [Option.map_eq_some_iff]
  constructor
  · rintro ⟨⟨found, value⟩, hfound, rfl⟩
    obtain ⟨hkey, before, after, rfl, hbefore⟩ := List.find?_eq_some_iff_append.mp hfound
    obtain rfl : found = .text key := sameKey_text_iff.mp hkey
    refine ⟨before, after, rfl, fun entry hentry heq => ?_⟩
    have hother := hbefore entry hentry
    rw [sameKey_text_iff.mpr heq] at hother
    exact absurd hother (by decide)
  · rintro ⟨before, after, rfl, hbefore⟩
    refine ⟨(.text key, value), List.find?_eq_some_iff_append.mpr
      ⟨sameKey_text_iff.mpr rfl, before, after, rfl, fun entry hentry => ?_⟩, rfl⟩
    rw [Bool.not_eq_true', ← Bool.not_eq_true, sameKey_text_iff]
    exact hbefore entry hentry

theorem get?_eq_none_iff {entries : List (Datum × Datum)} {key : String} :
    get? entries key = none ↔ ∀ value, ¬ Holds entries key value := by
  simp only [Option.eq_none_iff_forall_ne_some, ne_eq, get?_eq_some_iff]

/-! ## Texts -/

section Texts

variable [Runtime] {value : Datum}

theorem toText_of_fault?_eq_none (h : value.fault? = none) : value.toText = .ok value.display := by
  unfold toText
  rw [h]

theorem toText_of_fault?_eq_some {fault : Fault} (h : value.fault? = some fault) :
    value.toText = .error fault := by
  unfold toText
  rw [h]

theorem fault?_text (text : String) : (Datum.text text).fault? = none :=
  rfl

theorem fault?_int_eq_none_iff {n : Int} :
    (Datum.int n).fault? = none ↔ Json.Token.IsAdmitted n := by
  unfold fault? faultIn?
  rw [Json.Token.IsAdmitted, Nat.pow_eq]
  simp only [ite_eq_left_iff, reduceCtorEq, imp_false, not_not]

theorem fault?_int_of_not_isAdmitted {n : Int} (h : ¬ Json.Token.IsAdmitted n) :
    (Datum.int n).fault? = some .digits := by
  rw [← fault?_int_eq_none_iff] at h
  unfold fault? faultIn? at h ⊢
  split
  · next hadmitted => exact absurd (if_pos hadmitted) h
  · rfl

end Texts

theorem isEmpty_int_of_not_isAdmitted {n : Int} (h : ¬ Json.Token.IsAdmitted n) :
    (Datum.int n).isEmpty = false := by
  refine beq_eq_false_iff_ne.mpr fun hzero => h ?_
  rw [hzero]
  exact Nat.pow_pos (by decide)

end QueryBridge.Datum
