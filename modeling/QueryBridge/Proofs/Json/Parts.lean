import QueryBridge.Proofs.Json.Number

/-!
# The parts of a value

What a document must not hold is a condition on all values inside it.
-/

namespace QueryBridge.Json.Value

@[simp] theorem string?_ofString (string : CodeString) :
    (ofString string).string? = some string := by
  cases string <;> rfl

theorem ofString_of_string? {value : Value} {string : CodeString}
    (h : value.string? = some string) : ofString string = value := by
  cases value <;> cases h <;> rfl

/-! ## Parts -/

mutual

/-- The value itself and all values inside it. -/
def parts : Value → List Value
  | .array items => .array items :: itemParts items
  | .object fields => .object fields :: fieldParts fields
  | value => [value]

def itemParts : List Value → List Value
  | [] => []
  | item :: items => item.parts ++ itemParts items

def fieldParts : List (CodeString × Value) → List Value
  | [] => []
  | (_, value) :: fields => value.parts ++ fieldParts fields

end

theorem mem_parts_self (value : Value) : value ∈ value.parts := by
  cases value <;> exact List.mem_cons_self

theorem mem_itemParts_iff {part : Value} {items : List Value} :
    part ∈ itemParts items ↔ ∃ item ∈ items, part ∈ item.parts := by
  induction items with
  | nil => simp [itemParts]
  | cons item items ih => rw [itemParts, List.mem_append, ih, List.exists_mem_cons_iff]

theorem mem_fieldParts_iff {part : Value} {fields : List (CodeString × Value)} :
    part ∈ fieldParts fields ↔ ∃ field ∈ fields, part ∈ field.2.parts := by
  induction fields with
  | nil => simp [fieldParts]
  | cons field fields ih => rw [fieldParts, List.mem_append, ih, List.exists_mem_cons_iff]

/-- The condition holds of the value and of all values inside it. -/
def Everywhere (P : Value → Prop) (value : Value) : Prop :=
  ∀ part ∈ value.parts, P part

variable {P : Value → Prop}

theorem Everywhere.self {value : Value} (h : value.Everywhere P) : P value :=
  h value (mem_parts_self value)

theorem everywhere_of_parts {value : Value} (hparts : value.parts = [value]) (h : P value) :
    value.Everywhere P := by
  intro part hpart
  rw [hparts, List.mem_singleton] at hpart
  exact hpart ▸ h

theorem everywhere_array_iff {items : List Value} :
    (array items).Everywhere P ↔ P (array items) ∧ ∀ item ∈ items, item.Everywhere P := by
  rw [Everywhere, parts, List.forall_mem_cons]
  simp only [mem_itemParts_iff, forall_exists_index, and_imp]
  exact and_congr_right' ⟨fun h item hitem part hpart => h part item hitem hpart,
    fun h part item hitem hpart => h item hitem part hpart⟩

theorem everywhere_object_iff {fields : Members} :
    (object fields).Everywhere P ↔ P (object fields) ∧ ∀ field ∈ fields, field.2.Everywhere P := by
  rw [Everywhere, parts, List.forall_mem_cons]
  simp only [mem_fieldParts_iff, forall_exists_index, and_imp]
  exact and_congr_right' ⟨fun h field hfield part hpart => h part field hfield hpart,
    fun h part field hfield hpart => h field hfield part hpart⟩

/-! ## Conditions on a value itself -/

/-- An integer has an admitted size, and an object repeats no name. -/
def IsAdmitted : Value → Prop
  | .int number => Token.IsAdmitted number
  | .object fields => (Fields.names fields).Nodup
  | .null | .bool _ | .float _ | .text _ | .brokenText _ | .array _ => True

/-- The document of the value is read as the value itself.  A float may be written in fewer
digits than it has. -/
def IsLegible : Value → Prop
  | .float _ => False
  | value => value.IsAdmitted

theorem isLegible_of_isAdmitted {value : Value} (h : value.IsAdmitted)
    (hfloat : ∀ number, value ≠ .float number) : value.IsLegible := by
  cases value with
  | float number => exact hfloat number rfl
  | _ => exact h

end QueryBridge.Json.Value
