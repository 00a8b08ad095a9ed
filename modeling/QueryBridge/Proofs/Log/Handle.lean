import QueryBridge.Log.Hub
import QueryBridge.Proofs.Fields

/-!
# The extras of a handle

As long as no caller uses the name of the redactor, a handle has a redactor under that name and
values under all others.  The values are those that were bound, in turn, and the redactor is the
one that was bound last.
-/

namespace QueryBridge.Log

open Hub (plainExtras)

/-! ## Values that count -/

/-- The values that are not null. -/
def nonNull (extras : Fields Json.Value) : Fields Json.Value :=
  extras.filter fun extra =>
    match extra.2 with
    | .null => false
    | _ => true

theorem dropNulls_eq (extras : Fields Json.Value) :
    dropNulls extras = Fields.mapValues Extra.value (nonNull extras) := by
  induction extras with
  | nil => rfl
  | cons extra extras ih =>
      obtain ⟨name, value⟩ := extra
      unfold dropNulls Fields.mapValues nonNull at ih ⊢
      rw [List.filterMap_cons, List.filter_cons, ih]
      cases value <;> rfl

/-- The names are neither that of the redactor nor those of a record's attributes. -/
def HasFreeNames (extras : Fields Json.Value) : Prop :=
  ∀ extra ∈ extras, extra.1 ≠ redactorKey ∧ extra.1 ∉ attributeNames

instance (extras : Fields Json.Value) : Decidable (HasFreeNames extras) :=
  inferInstanceAs (Decidable (∀ extra ∈ extras, _ ∧ _))

theorem HasFreeNames.nonNull {extras : Fields Json.Value} (h : HasFreeNames extras) :
    HasFreeNames (nonNull extras) :=
  fun extra hextra => h extra (List.mem_filter.mp hextra).1

/-! ## Extras with a redactor -/

/-- The extra may stand among those of a handle: it is a redactor under the redactor's name, or
a value under a name that is free. -/
def IsProperExtra (extra : String × Extra) : Prop :=
  match extra.2 with
  | .redactor _ => extra.1 = redactorKey
  | .value _ => extra.1 ≠ redactorKey ∧ extra.1 ∉ attributeNames

def AreProper (extras : Fields Extra) : Prop :=
  ∀ extra ∈ extras, IsProperExtra extra

variable {extras : Fields Extra} {name : String}

theorem AreProper.insert (h : AreProper extras) {value : Extra}
    (hvalue : IsProperExtra (name, value)) : AreProper (Fields.insert name value extras) := by
  intro extra hextra
  rcases Fields.mem_of_mem_insert hextra with rfl | hextra
  · exact hvalue
  · exact h extra hextra

theorem AreProper.name_not_mem (h : AreProper extras) {extra : String × Extra}
    (hextra : extra ∈ extras) : extra.1 ∉ attributeNames := by
  have hproper := h extra hextra
  unfold IsProperExtra at hproper
  split at hproper
  · rw [hproper]
    decide
  · exact hproper.2

@[simp] theorem plainExtras_cons_value (name : String) (value : Json.Value)
    (extras : Fields Extra) :
    plainExtras ((name, .value value) :: extras) = (name, value) :: plainExtras extras := rfl

@[simp] theorem plainExtras_cons_redactor (name : String) (index : Nat)
    (extras : Fields Extra) :
    plainExtras ((name, .redactor index) :: extras) = plainExtras extras := rfl

/-- A value takes its place among the values. -/
theorem plainExtras_insert_value (h : AreProper extras) (hname : name ≠ redactorKey)
    (value : Json.Value) :
    plainExtras (Fields.insert name (.value value) extras) =
      Fields.insert name value (plainExtras extras) := by
  induction extras with
  | nil => rfl
  | cons extra extras ih =>
      obtain ⟨other, old⟩ := extra
      obtain ⟨hfirst, hothers⟩ := List.forall_mem_cons.mp h
      by_cases hother : other = name
      · subst hother
        rw [Fields.insert_cons_self]
        cases old with
        | value old => rw [plainExtras_cons_value, plainExtras_cons_value, Fields.insert_cons_self]
        | redactor index => exact absurd hfirst hname
      · rw [Fields.insert_cons_of_ne hother]
        cases old with
        | value old =>
            rw [plainExtras_cons_value, plainExtras_cons_value, Fields.insert_cons_of_ne hother,
              ih hothers]
        | redactor index => rw [plainExtras_cons_redactor, plainExtras_cons_redactor, ih hothers]

/-- A redactor takes no place among the values. -/
theorem plainExtras_insert_redactor (h : AreProper extras) (index : Nat) :
    plainExtras (Fields.insert redactorKey (.redactor index) extras) = plainExtras extras := by
  induction extras with
  | nil => rfl
  | cons extra extras ih =>
      obtain ⟨other, old⟩ := extra
      obtain ⟨hfirst, hothers⟩ := List.forall_mem_cons.mp h
      by_cases hother : other = redactorKey
      · subst hother
        rw [Fields.insert_cons_self]
        cases old with
        | value old => exact absurd rfl hfirst.1
        | redactor old => rfl
      · rw [Fields.insert_cons_of_ne hother]
        cases old with
        | value old => rw [plainExtras_cons_value, plainExtras_cons_value, ih hothers]
        | redactor old => rw [plainExtras_cons_redactor, plainExtras_cons_redactor, ih hothers]

/-! ## Giving values -/

/-- Values that are given one after the other stay values, and leave the redactor. -/
theorem override_values (h : AreProper extras) {values : Fields Json.Value}
    (hvalues : HasFreeNames values) :
    let given := Fields.override extras (Fields.mapValues Extra.value values)
    AreProper given ∧ plainExtras given = Fields.override (plainExtras extras) values ∧
      Fields.get? given redactorKey = Fields.get? extras redactorKey := by
  induction values generalizing extras with
  | nil => exact ⟨h, rfl, rfl⟩
  | cons first values ih =>
      obtain ⟨name, value⟩ := first
      obtain ⟨hfirst, hothers⟩ := List.forall_mem_cons.mp hvalues
      have hinsert : AreProper (Fields.insert name (.value value) extras) := h.insert hfirst
      obtain ⟨hproper, hplain, hredactor⟩ := ih hinsert hothers
      refine ⟨hproper, ?_, ?_⟩
      · rw [plainExtras_insert_value h hfirst.1] at hplain
        exact hplain
      · rw [Fields.get?_insert_of_ne hfirst.1.symm] at hredactor
        exact hredactor

end QueryBridge.Log
