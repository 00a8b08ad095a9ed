import QueryBridge.Proofs.Text.Digits
import QueryBridge.Url.Basic

/-!
# Ports

A port is written in decimal digits, behind a sign if it is negative.  What is written so is
read as the same port, and only a port that the scheme implies is left out; so the port that is
meant stays the same.
-/

namespace QueryBridge.Url

/-! ## Reading digits -/

theorem groupedDigits?_of_isDigit {digits : List Char} (hne : digits ≠ [])
    (h : ∀ c ∈ digits, c.isDigit = true) : groupedDigits? digits = some digits := by
  induction digits with
  | nil => exact absurd rfl hne
  | cons c rest ih =>
      have hc : c.isDigit = true := h c List.mem_cons_self
      cases rest with
      | nil => simp [groupedDigits?, hc]
      | cons d rest =>
          have hd : d.isDigit = true := h d (List.mem_cons_of_mem _ List.mem_cons_self)
          have hd' : d ≠ '_' := by
            rintro rfl
            cases hd
          have hrest := ih (List.cons_ne_nil _ _) fun e he => h e (List.mem_cons_of_mem _ he)
          rw [groupedDigits?.eq_3]
          · simp [hc, hrest]
          · exact fun heq => by cases heq
          · intro other heq
            cases heq
            exact hd' rfl

theorem natural?_repr (n : Nat) : natural? n.repr.toList = some (n : Int) := by
  rw [natural?, Nat.toList_repr,
    groupedDigits?_of_isDigit Nat.toDigits_ne_nil fun c => Text.isDigit_of_mem_toDigits,
    Option.map_some, Text.foldl_toDigits]

theorem integer?_repr (n : Nat) : integer? n.repr.toList = some (n : Int) := by
  have htrim : Text.trimChars n.repr.toList = n.repr.toList := by
    have htrimmed := Text.isTrimmed_of_isDigit (List.forall_mem_nil _) (List.forall_mem_nil _)
      fun c (hc : c ∈ n.repr.toList) => Text.isDigit_of_mem_repr hc
    simpa using htrimmed.trimChars_eq
  unfold integer?
  rw [htrim]
  -- a digit is no sign
  split
  · next heq =>
      have hsign : '-'.isDigit = true :=
        Text.isDigit_of_mem_repr (by rw [heq]; exact List.mem_cons_self)
      cases hsign
  · next heq =>
      have hsign : '+'.isDigit = true :=
        Text.isDigit_of_mem_repr (by rw [heq]; exact List.mem_cons_self)
      cases hsign
  · exact natural?_repr n

theorem integer?_neg_repr (n : Nat) : integer? ('-' :: n.repr.toList) = some (-(n : Int)) := by
  have hlast : ∀ c ∈ ('-' :: n.repr.toList).getLast?, Text.isBlank c = false := by
    intro c hc
    rcases List.mem_cons.mp (List.mem_of_mem_getLast? hc) with rfl | hdigit
    · rfl
    · exact Text.isBlank_of_isDigit (Text.isDigit_of_mem_repr hdigit)
  have hhead : ∀ c ∈ ('-' :: n.repr.toList).head?, Text.isBlank c = false := by
    intro c hc
    cases hc
    rfl
  have htrim : Text.trimChars ('-' :: n.repr.toList) = '-' :: n.repr.toList :=
    Text.IsTrimmed.trimChars_eq
      ⟨⟨[], [], List.forall_mem_nil _, List.forall_mem_nil _, by simp⟩, hhead, hlast⟩
  unfold integer?
  rw [htrim]
  simp only [natural?_repr, Option.map_some]

/-- An integer is read as it is written. -/
theorem integer?_toString (port : Int) : integer? (toString port).toList = some port := by
  rw [Int.toString_eq_repr, Int.repr_eq_if]
  split
  · next hpos => rw [integer?_repr, Int.toNat_of_nonneg hpos]
  · next hneg =>
      have hsign : "-".toList = ['-'] := rfl
      rw [String.toList_append, hsign, List.singleton_append, integer?_neg_repr,
        Int.toNat_of_nonneg (by omega), Int.neg_neg]

/-! ## The port that is meant -/

/-- A port as it stands behind a host. -/
def portText : Option Int → List Char
  | none => []
  | some port => ':' :: (toString port).toList

theorem bracket_not_mem_portText (port : Option Int) : ']' ∉ portText port := by
  cases port with
  | none => exact List.not_mem_nil
  | some port =>
      intro hmem
      rcases List.mem_cons.mp hmem with hcolon | hmem
      · exact absurd hcolon (by decide)
      rw [Int.toString_eq_repr, Int.repr_eq_if] at hmem
      split at hmem
      · have hdigit := Text.isDigit_of_mem_repr hmem
        cases hdigit
      · rw [String.toList_append, List.mem_append] at hmem
        rcases hmem with hsign | hmem
        · exact absurd hsign (by decide)
        · have hdigit := Text.isDigit_of_mem_repr hmem
          cases hdigit

/-- The port of a URL, or else that of its scheme. -/
def meantPort? (scheme : List Char) (port : Option Int) : Option Int :=
  port.or (defaultPort? scheme)

theorem normalPort_portText {scheme : List Char} {port port' : Option Int}
    (h : normalPort scheme (cutPort (portText port)) = .ok port') :
    meantPort? scheme port' = meantPort? scheme port := by
  cases port with
  | none =>
      cases h
      rfl
  | some port =>
      have hne : (toString port).toList ≠ [] := by
        intro hnil
        have hread := integer?_toString port
        rw [hnil] at hread
        cases hread
      simp only [portText, cutPort, normalPort, List.isEmpty_iff, hne, if_false,
        integer?_toString, Except.ok.injEq] at h
      subst h
      unfold meantPort?
      split
      · next hdefault => simp [hdefault]
      · rfl

end QueryBridge.Url
