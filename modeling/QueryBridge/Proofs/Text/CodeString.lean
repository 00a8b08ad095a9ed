import Mathlib.Data.List.Basic
import QueryBridge.Json.Sign

/-!
# Strings and their code points

A string is determined by its code points, and so are the signs of a document.
-/

namespace QueryBridge

theorem exists_char {code : Nat} (h : code.isValidChar) : ∃ c : Char, c.toNat = code :=
  ⟨Char.ofNatAux code h, rfl⟩

namespace CodeString

@[simp] theorem codes_ofCodes (codes : List Nat) : (ofCodes codes).codes = codes := by
  unfold ofCodes
  split
  · next hvalid =>
      rw [CodeString.codes, String.toList_ofList, List.map_map]
      conv_rhs => rw [← List.map_id codes]
      refine List.map_congr_left fun code hcode => ?_
      have hchar : code.isValidChar := of_decide_eq_true (List.all_eq_true.mp hvalid code hcode)
      obtain ⟨c, rfl⟩ := exists_char hchar
      rw [Function.comp_apply, Char.ofNat_toNat, id_eq]
  · rfl

@[simp] theorem ofCodes_codes (string : CodeString) : ofCodes string.codes = string := by
  cases string with
  | text value =>
      have hvalid : (value.toList.map Char.toNat).all (fun code => code.isValidChar) = true := by
        rw [List.all_map, List.all_eq_true]
        exact fun c _ => decide_eq_true c.valid
      have hchars : (value.toList.map Char.toNat).map Char.ofNat = value.toList := by
        rw [List.map_map]
        exact List.map_id'' Char.ofNat_toNat value.toList
      rw [codes, ofCodes, dif_pos hvalid, hchars, String.ofList_toList]
  | broken value =>
      rw [codes, ofCodes, dif_neg]
      rw [value.isBroken]
      exact Bool.false_ne_true

theorem codes_injective : Function.Injective codes := fun first second h => by
  rw [← ofCodes_codes first, h, ofCodes_codes]

theorem codes_inj {first second : CodeString} : first.codes = second.codes ↔ first = second :=
  codes_injective.eq_iff

@[simp] theorem codes_text (value : String) :
    (text value).codes = value.toList.map Char.toNat := rfl

@[simp] theorem codes_append (first second : CodeString) :
    (first ++ second).codes = first.codes ++ second.codes :=
  codes_ofCodes _

@[simp] theorem append_empty (string : CodeString) : string ++ "" = string := by
  rw [← codes_inj, codes_append]
  exact List.append_nil _

theorem append_assoc (first second third : CodeString) :
    first ++ second ++ third = first ++ (second ++ third) := by
  rw [← codes_inj]
  simp only [codes_append, List.append_assoc]

theorem codes_join (separator : CodeString) (strings : List CodeString) :
    (join separator strings).codes = separator.codes.intercalate (strings.map codes) :=
  codes_ofCodes _

theorem map_intercalate {α β : Type} (f : α → β) (separator : List α) (parts : List (List α)) :
    (separator.intercalate parts).map f =
      (separator.map f).intercalate (parts.map (List.map f)) := by
  induction parts with
  | nil => rfl
  | cons part parts ih =>
      cases parts with
      | nil => rw [List.intercalate_singleton, List.map_singleton, List.intercalate_singleton]
      | cons next parts =>
          rw [List.intercalate_cons_cons, List.map_append, List.map_append, ih, List.map_cons,
            List.map_cons, List.map_cons, List.intercalate_cons_cons]

/-- Joined texts are a text. -/
theorem join_text (separator : String) (strings : List String) :
    join separator (strings.map text) = separator.intercalate strings := by
  rw [← codes_inj, codes_join, codes_text, codes_text, String.toList_intercalate,
    map_intercalate, List.map_map, List.map_map]
  rfl

theorem codes_eq_nil_iff {string : CodeString} : string.codes = [] ↔ string = "" := by
  rw [← codes_inj]
  rfl

theorem map_toNat_prefix_iff {first second : List Char} :
    first.map Char.toNat <+: second.map Char.toNat ↔ first <+: second := by
  refine ⟨fun h => ?_, fun h => h.map _⟩
  obtain ⟨part, hpart, heq⟩ := List.prefix_map_iff.mp h
  rwa [List.map_injective_iff.mpr (fun _ _ => Char.toNat_inj.mp) heq]

@[simp] theorem length_text (value : String) : (text value).length = value.length := by
  rw [length, codes_text, List.length_map, String.length_toList]

theorem toNat_mem_codes_text {c : Char} {value : String} :
    c.toNat ∈ (text value).codes ↔ c ∈ value.toList :=
  List.mem_map_of_injective fun _ _ => Char.toNat_inj.mp

end CodeString

namespace Json.Sign

theorem code_ofCode (code : Nat) : (ofCode code).code = code := by
  unfold ofCode
  split
  · next hvalid =>
      obtain ⟨c, rfl⟩ := exists_char hvalid
      rw [Char.ofNat_toNat]
      rfl
  · rfl

theorem ofCode_toNat (c : Char) : ofCode c.toNat = .char c := by
  have hvalid : c.toNat.isValidChar := c.valid
  rw [ofCode, if_pos hvalid, Char.ofNat_toNat]

theorem ofString_text (value : String) : ofString value = ofText value.toList := by
  rw [ofString, CodeString.codes, List.map_map, ofText]
  exact List.map_congr_left fun c _ => ofCode_toNat c

end Json.Sign

end QueryBridge
