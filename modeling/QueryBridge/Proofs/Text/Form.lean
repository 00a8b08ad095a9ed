import QueryBridge.Proofs.Text.Percent

/-!
# Form parameters

A form has parameters between its ampersands.  Each has a name in front of its first equals sign
and a value behind it; in both a plus sign is a space, and percent-encoded bytes are read as
UTF-8.  Between two ampersands without anything there is no parameter.
-/

namespace QueryBridge.Text.Form

open QueryBridge.Text.Percent (encodeChars)

/-- What the text of a name or of a value stands for. -/
def decode (text : List Char) : String :=
  Percent.decode (String.ofList (text.map fun c => if c = '+' then ' ' else c))

/-- The name and the value of a parameter. -/
def parameter (part : List Char) : String × String :=
  (decode (cutAt '=' part).1, decode (cutAt '=' part).2)

/-- The parameters of a form in order. -/
def parameters (form : List Char) : List (String × String) :=
  ((splitOn '&' form).filter (!·.isEmpty)).map parameter

/-! ## Reading names and values -/

theorem map_plus_of_not_mem {text : List Char} (h : '+' ∉ text) :
    (text.map fun c => if c = '+' then ' ' else c) = text := by
  have hkept : ∀ c ∈ text, (if c = '+' then ' ' else c) = c := by
    rintro c hc
    rw [if_neg]
    rintro rfl
    exact h hc
  rw [List.map_congr_left hkept, List.map_id']

/-- Plain text comes back, and so does an encoding behind it. -/
theorem decode_append_encodeChars {first : List Char} (hpercent : '%' ∉ first)
    (hplus : '+' ∉ first) (text : List Char) :
    decode (first ++ encodeChars text) = String.ofList (first ++ text) := by
  have hall : '+' ∉ first ++ encodeChars text := by
    rw [List.mem_append, not_or]
    exact ⟨hplus, Percent.not_mem_encodeChars (by decide) (by decide)⟩
  have hbytes : Percent.decodeBytes (first ++ encodeChars text) = Utf8.encode (first ++ text) := by
    rw [Percent.decodeBytes_append_of_not_mem hpercent, encodeChars,
      Percent.decodeBytes_encodeExcept (by decide)]
    exact List.flatMap_append.symm
  rw [decode, map_plus_of_not_mem hall, Percent.decode, String.toList_ofList, hbytes,
    Utf8.decodeLossy_encode]

theorem decode_encodeChars (text : List Char) : decode (encodeChars text) = String.ofList text :=
  decode_append_encodeChars List.not_mem_nil List.not_mem_nil text

theorem decode_of_not_mem {text : List Char} (hpercent : '%' ∉ text) (hplus : '+' ∉ text) :
    decode text = String.ofList text := by
  have h := decode_append_encodeChars hpercent hplus []
  rwa [encodeChars, Percent.encodeExcept, List.flatMap_nil, List.append_nil] at h

/-! ## Reading forms -/

theorem parameter_append_cons {name : List Char} (hname : '=' ∉ name) (value : List Char) :
    parameter (name ++ '=' :: value) = (decode name, decode value) := by
  rw [parameter, cutAt_append_cons hname]

/-- Every part that is joined is a parameter of its own. -/
theorem parameters_intercalate {parts : List (List Char)} (hparts : parts ≠ [])
    (h : ∀ part ∈ parts, part ≠ [] ∧ '&' ∉ part) :
    parameters (['&'].intercalate parts) = parts.map parameter := by
  have hkept : parts.filter (!·.isEmpty) = parts := by
    rw [List.filter_eq_self]
    intro part hpart
    simpa using (h part hpart).1
  rw [parameters, splitOn_intercalate hparts fun part hpart => (h part hpart).2, hkept]

end QueryBridge.Text.Form
