import QueryBridge.Proofs.Json.Admission
import QueryBridge.Proofs.Json.Outside
import QueryBridge.Proofs.Json.Writing
import QueryBridge.Proofs.Record
import QueryBridge.Runtime.Standard

/-!
# Nested values in records

An array or object in a record is a string, and nothing of it is lost: the string is read as the
value.  Other values are what they are.  There is no record if a value nests deeper than can be
written.
-/

namespace QueryBridge

open Json (Members Value)

/-! ## Strings that stand for values -/

namespace Scalar

/-- The scalar is a string without control characters, and without blanks outside the strings in
it, that is read as the value wherever so deep a value can be read. -/
def IsDocumentOf (scalar : Scalar) (value : Value) : Prop :=
  ∃ string : CodeString, scalar = ofString string ∧
    (∀ sign ∈ Json.Sign.ofString string, 0x20 ≤ sign.code) ∧
    (∀ sign ∈ Json.outsideStrings (Json.Sign.ofString string), ¬ sign.IsBlank) ∧
    ∀ levels, value.depth ≤ levels → Json.read levels (Json.Sign.ofString string) = .ok value

/-- The scalar stands for the value without loss: an array or object is a document of it, and any
other value is the scalar itself. -/
def Keeps (scalar : Scalar) : Value → Prop
  | .array items => scalar.IsDocumentOf (.array items)
  | .object fields => scalar.IsDocumentOf (.object fields)
  | value => scalar.toValue = value

theorem isDocumentOf_compact {value : Value} (h : value.Everywhere Value.IsLegible) :
    (ofString value.compact).IsDocumentOf value := by
  have htight := Json.isTight_write value 0 h
  refine ⟨value.compact, rfl, ?_⟩
  rw [Json.ofString_compact]
  refine ⟨htight.visible, htight.not_isBlank, fun levels hlevels => ?_⟩
  rw [Json.read_write Json.Style.isProper_compact h, if_pos hlevels]

theorem keeps_ofValue {value : Value} (h : value.Everywhere Value.IsLegible) :
    (ofValue value).Keeps value := by
  cases value with
  | array items => exact isDocumentOf_compact h
  | object fields => exact isDocumentOf_compact h
  | _ => rfl

theorem depth_toValue (scalar : Scalar) : scalar.toValue.depth = 0 := by
  cases scalar <;> rfl

end Scalar

/-! ## Records -/

namespace Record

theorem get?_ofPayload_of_get? {payload : Members} (h : (Fields.names payload).Nodup)
    {fields : List CodeString} {name : CodeString} {value : Value}
    (hvalue : Fields.get? payload name = some value) (hfields : fields = [] ∨ name ∈ fields) :
    (ofPayload payload fields).get? name = some (Scalar.ofValue value) := by
  rcases hfields with rfl | hfields
  · rw [get?_ofPayload_nil h, hvalue, Option.map_some]
  · rw [get?_ofPayload payload hfields, hvalue, Option.getD_some]

/-- A record is made of its own values again, however little can be written. -/
theorem ofPayloadWithin?_toPayload {record : Record} (h : (Fields.names record.values).Nodup)
    (levels : Nat) : ofPayloadWithin? levels record.toPayload [] = some record := by
  have hdepth : ∀ field ∈ record.toPayload, field.2.depth ≤ levels := by
    intro field hfield
    obtain ⟨entry, -, rfl⟩ := List.mem_map.mp hfield
    show entry.2.toValue.depth ≤ levels
    rw [Scalar.depth_toValue]
    exact Nat.zero_le levels
  rw [ofPayloadWithin?_of_depth_le hdepth]
  exact congrArg some (project_nil h)

/-- So many arrays inside each other. -/
def nest : Nat → Value
  | 0 => .null
  | levels + 1 => .array [nest levels]

theorem depth_nest (levels : Nat) : (nest levels).depth = levels := by
  induction levels with
  | zero => rfl
  | succ levels ih =>
      rw [nest, Value.depth, Value.depthOfItems, Value.depthOfItems, ih, Nat.max_zero]

theorem everywhere_nest (levels : Nat) : (nest levels).Everywhere Value.IsLegible := by
  induction levels with
  | zero => exact Value.everywhere_of_parts rfl trivial
  | succ levels ih =>
      exact Value.everywhere_array_iff.mpr ⟨trivial, List.forall_mem_singleton.mpr ih⟩

theorem read_nest (levels : Nat) :
    Json.read levels ((nest levels).write .compact 0) = .ok (nest levels) := by
  rw [Json.read_write Json.Style.isProper_compact (everywhere_nest levels), depth_nest,
    if_pos (Nat.le_refl levels)]

theorem ofPayloadWithin?_nest {levels depth : Nat} (h : levels < depth) (name : CodeString) :
    ofPayloadWithin? levels [(name, nest depth)] [] = none := by
  rw [ofPayloadWithin?, if_neg]
  intro hall
  have hdepth := of_decide_eq_true (List.all_eq_true.mp hall (name, nest depth)
    List.mem_cons_self)
  rw [depth_nest] at hdepth
  omega

end Record

end QueryBridge
