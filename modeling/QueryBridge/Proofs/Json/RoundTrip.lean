import QueryBridge.Json.Reader
import QueryBridge.Proofs.Fields
import QueryBridge.Proofs.Json.Lexing

/-!
# Reading written values

The tokens of a value take the machine from where a value is awaited to where it has been
delivered, whatever containers are open, unless the value nests deeper than is admitted.  So the
document of a value is read as the value, or it is too deep.
-/

namespace QueryBridge.Json

namespace Machine

variable {levels : Nat}

/-- Steps that all leave at most `levels` arrays and objects open. -/
def runWithin (levels : Nat) (machine : Machine) : List Token → Except ReadError Machine
  | [] => .ok machine
  | token :: tokens =>
      (machine.stepWithin levels token).bind fun next => next.runWithin levels tokens

/-! ## From texts to tokens -/

theorem readFrom_of_isSpace {sign : Sign} (h : Token.isSpace sign = true) (fuel : Nat)
    (machine : Machine) (text : List Sign) :
    machine.readFrom levels fuel (sign :: text) = machine.readFrom levels fuel text := by
  cases fuel with
  | zero => rw [readFrom, readFrom, List.dropWhile_cons_of_pos h]
  | succ fuel => rw [readFrom, readFrom, List.dropWhile_cons_of_pos h]

/-- The machine runs over the tokens at the beginning of a text, and then over what follows. -/
theorem readFrom_of_lexes {text rest : List Sign} {tokens : List Token}
    (h : Lexes text tokens rest) {fuel : Nat} (hfuel : tokens.length ≤ fuel) (machine : Machine) :
    machine.readFrom levels fuel text = (machine.runWithin levels tokens).bind fun next =>
      next.readFrom levels (fuel - tokens.length) rest := by
  induction h generalizing fuel machine with
  | stop rest => rfl
  | space hspace _ ih =>
      rw [readFrom_of_isSpace hspace]
      exact ih hfuel machine
  | @token written after token tokens rest hne hnext _ ih =>
      cases fuel with
      | zero => cases hfuel
      | succ fuel =>
          obtain ⟨sign, written, rfl⟩ := List.exists_cons_of_ne_nil hne
          have hspace := Token.isSpace_of_next? hnext
          rw [readFrom, List.cons_append, List.dropWhile_cons_of_neg (by simp [hspace])]
          rw [List.cons_append] at hnext
          dsimp only
          rw [hnext, runWithin, List.length_cons, Nat.add_sub_add_right]
          show ((machine.stepWithin levels token).bind fun next =>
            next.readFrom levels fuel after) = _
          cases machine.stepWithin levels token with
          | error fault => rfl
          | ok next => exact ih (Nat.le_of_succ_le_succ hfuel) next

/-- A document that is cut to its end is read by the run over its tokens. -/
theorem read_of_lexes {text : List Sign} {tokens : List Token} (h : Lexes text tokens []) :
    read levels text = (start.runWithin levels tokens).bind result := by
  rw [read, readFrom_of_lexes h h.length_le]
  congr 1
  funext next
  cases text.length - tokens.length <;> rfl

/-! ## Steps -/

/-- Hands a complete value to the innermost open container, if it can take one. -/
def delivered (value : Value) (stack : List Frame) : Except ReadError Machine :=
  (deliver value stack).elim (.error .malformed) .ok

theorem depth_of_deliver {value : Value} {stack : List Frame} {next : Machine}
    (h : deliver value stack = some next) : next.depth = stack.length := by
  unfold deliver at h
  split at h <;> cases h <;> rfl

theorem stepWithin_of_step {machine next : Machine} {token : Token}
    (h : machine.step token = some next) (hdepth : next.depth ≤ levels) :
    machine.stepWithin levels token = .ok next := by
  rw [stepWithin, h]
  exact if_neg (Nat.not_lt.mpr hdepth)

theorem stepWithin_of_deliver {machine : Machine} {token : Token} {value : Value}
    {stack : List Frame} (h : machine.step token = deliver value stack)
    (hdepth : stack.length ≤ levels) :
    machine.stepWithin levels token = delivered value stack := by
  rw [stepWithin, h, delivered]
  cases hdeliver : deliver value stack with
  | none => rfl
  | some next =>
      rw [← depth_of_deliver hdeliver] at hdepth
      exact if_neg (Nat.not_lt.mpr hdepth)

/-- Behind the opening of an array an item begins as everywhere else. -/
theorem step_beginsValue {awaits : Awaits} (h : awaits = .value ∨ awaits = .itemOrEnd)
    (stack : List Frame) {token : Token} (htoken : token ≠ .closeArray) :
    (running stack awaits).step token = beginsValue stack token := by
  rcases h with rfl | rfl
  · rfl
  · cases token with
    | closeArray => exact absurd rfl htoken
    | _ => rfl

/-- A container is opened unless too many others are open. -/
theorem runWithin_of_opens {awaits after : Awaits} (h : awaits = .value ∨ awaits = .itemOrEnd)
    {stack : List Frame} {token : Token} {frame : Frame}
    (hopens : beginsValue stack token = some (running (frame :: stack) after))
    (rest : List Token) :
    (running stack awaits).runWithin levels (token :: rest) =
      if stack.length + 1 ≤ levels then (running (frame :: stack) after).runWithin levels rest
      else .error .tooDeep := by
  have htoken : token ≠ .closeArray := by
    rintro rfl
    cases hopens
  rw [runWithin, stepWithin, step_beginsValue h stack htoken, hopens]
  show Except.bind (if levels < stack.length + 1 then _ else _) _ = _
  by_cases hdepth : stack.length + 1 ≤ levels
  · rw [if_neg (Nat.not_lt.mpr hdepth), if_pos hdepth]
    rfl
  · rw [if_pos (Nat.lt_of_not_le hdepth), if_neg hdepth]
    rfl

/-- A scalar is delivered; it opens nothing. -/
theorem runWithin_scalar {awaits : Awaits} (h : awaits = .value ∨ awaits = .itemOrEnd)
    {value : Value} (hflat : value.depth = 0) {stack : List Frame}
    (hdepth : stack.length ≤ levels) (rest : List Token) :
    (running stack awaits).runWithin levels (.scalar value :: rest) =
      if stack.length + value.depth ≤ levels then
        (delivered value stack).bind fun next => next.runWithin levels rest
      else .error .tooDeep := by
  have hstep : (running stack awaits).step (.scalar value) = deliver value stack :=
    step_beginsValue h stack Token.noConfusion
  rw [hflat, Nat.add_zero, if_pos hdepth, runWithin, stepWithin_of_deliver hstep hdepth]

theorem runWithin_name {awaits : Awaits} (h : awaits = .name ∨ awaits = .nameOrEnd)
    {stack : List Frame} {fields : Members} (hdepth : stack.length + 1 ≤ levels)
    (name : CodeString) (rest : List Token) :
    (running (.fields fields :: stack) awaits).runWithin levels
        (.scalar (.ofString name) :: .colon :: rest) =
      (running (.field fields name :: stack) .value).runWithin levels rest := by
  have hname : (running (.fields fields :: stack) awaits).step (.scalar (.ofString name)) =
      some (running (.field fields name :: stack) .colon) := by
    have hbegins : beginsField (.fields fields :: stack) (.scalar (.ofString name)) =
        some (running (.field fields name :: stack) .colon) := by
      rw [beginsField, Value.string?_ofString, Option.map_some]
    rcases h with rfl | rfl <;> exact hbegins
  have hcolon : (running (.field fields name :: stack) .colon).step .colon =
      some (running (.field fields name :: stack) .value) := rfl
  rw [runWithin, stepWithin_of_step hname hdepth]
  show runWithin levels (running (.field fields name :: stack) .colon) (.colon :: rest) = _
  rw [runWithin, stepWithin_of_step hcolon hdepth]
  rfl

/-- A comma inside an open container. -/
theorem runWithin_comma {frame : Frame} {stack : List Frame} {after : Awaits}
    (h : (running (frame :: stack) .separator).step .comma = some (running (frame :: stack) after))
    (hdepth : stack.length + 1 ≤ levels) (rest : List Token) :
    (running (frame :: stack) .separator).runWithin levels (.comma :: rest) =
      (running (frame :: stack) after).runWithin levels rest := by
  rw [runWithin, stepWithin_of_step h hdepth]
  rfl

theorem runWithin_close {machine : Machine} {token : Token} (value : Value) {stack : List Frame}
    (h : machine.step token = deliver value stack) (hdepth : stack.length ≤ levels)
    (rest : List Token) :
    machine.runWithin levels (token :: rest) =
      (delivered value stack).bind fun next => next.runWithin levels rest := by
  rw [runWithin, stepWithin_of_deliver h hdepth]

/-! ## Runs over the tokens of a value -/

mutual

/-- The tokens of a value lead to its delivery, unless it nests too deep. -/
theorem runWithin_tokens :
    ∀ (value : Value) {awaits : Awaits} (stack : List Frame) (rest : List Token),
      (awaits = .value ∨ awaits = .itemOrEnd) → value.Everywhere Value.IsLegible →
        stack.length ≤ levels →
        (running stack awaits).runWithin levels (value.tokens ++ rest) =
          if stack.length + value.depth ≤ levels then
            (delivered value stack).bind fun next => next.runWithin levels rest
          else .error .tooDeep
  | .null, awaits, stack, rest, h, _, hdepth => runWithin_scalar h rfl hdepth rest
  | .bool _, awaits, stack, rest, h, _, hdepth => runWithin_scalar h rfl hdepth rest
  | .int _, awaits, stack, rest, h, _, hdepth => runWithin_scalar h rfl hdepth rest
  | .float _, awaits, stack, rest, h, hlegible, hdepth => hlegible.self.elim
  | .text _, awaits, stack, rest, h, _, hdepth => runWithin_scalar h rfl hdepth rest
  | .brokenText _, awaits, stack, rest, h, _, hdepth => runWithin_scalar h rfl hdepth rest
  | .array [], awaits, stack, rest, h, _, hdepth => by
      rw [Value.tokens, List.cons_append, runWithin_of_opens h rfl, Value.depth,
        Value.depthOfItems]
      refine if_congr Iff.rfl ?_ rfl
      exact runWithin_close (.array []) rfl hdepth rest
  | .array (item :: items), awaits, stack, rest, h, hlegible, hdepth => by
      obtain ⟨hitem, hitems⟩ :=
        List.forall_mem_cons.mp (Value.everywhere_array_iff.mp hlegible).2
      rw [Value.tokens, List.cons_append, List.append_assoc, List.append_assoc,
        runWithin_of_opens h rfl, Value.depth, Value.depthOfItems]
      -- too deep at this bracket, inside the first item, or inside one of the others
      by_cases hopen : stack.length + 1 ≤ levels
      · rw [if_pos hopen, runWithin_tokens item (.items [] :: stack) _ (Or.inr rfl) hitem hopen,
          List.length_cons]
        by_cases hfirst : stack.length + 1 + item.depth ≤ levels
        · rw [if_pos hfirst]
          refine (runWithin_itemTokens items [item] stack rest hitems hopen).trans ?_
          exact if_congr (by omega) rfl rfl
        · rw [if_neg hfirst, if_neg (by omega)]
      · rw [if_neg hopen, if_neg (by omega)]
  | .object [], awaits, stack, rest, h, _, hdepth => by
      rw [Value.tokens, List.cons_append, runWithin_of_opens h rfl, Value.depth,
        Value.depthOfFields]
      refine if_congr Iff.rfl ?_ rfl
      exact runWithin_close (.object []) rfl hdepth rest
  | .object ((name, value) :: fields), awaits, stack, rest, h, hlegible, hdepth => by
      obtain ⟨hnames, hparts⟩ := Value.everywhere_object_iff.mp hlegible
      obtain ⟨hvalue, hfields⟩ := List.forall_mem_cons.mp hparts
      rw [Value.tokens, List.cons_append, List.cons_append, List.cons_append, List.append_assoc,
        List.append_assoc, runWithin_of_opens h rfl, Value.depth, Value.depthOfFields]
      by_cases hopen : stack.length + 1 ≤ levels
      · rw [if_pos hopen, runWithin_name (Or.inr rfl) hopen,
          runWithin_tokens value (.field [] name :: stack) _ (Or.inl rfl) hvalue hopen,
          List.length_cons]
        by_cases hfirst : stack.length + 1 + value.depth ≤ levels
        · rw [if_pos hfirst]
          refine (runWithin_fieldTokens fields [(name, value)] stack rest hnames hfields
            hopen).trans ?_
          exact if_congr (by omega) rfl rfl
        · rw [if_neg hfirst, if_neg (by omega)]
      · rw [if_neg hopen, if_neg (by omega)]

theorem runWithin_itemTokens :
    ∀ (items done : List Value) (stack : List Frame) (rest : List Token),
      (∀ item ∈ items, item.Everywhere Value.IsLegible) → stack.length + 1 ≤ levels →
        (running (.items done :: stack) .separator).runWithin levels
            (Value.itemTokens items ++ (.closeArray :: rest)) =
          if stack.length + 1 + Value.depthOfItems items ≤ levels then
            (delivered (.array (done.reverse ++ items)) stack).bind fun next =>
              next.runWithin levels rest
          else .error .tooDeep
  | [], done, stack, rest, _, hdepth => by
      rw [List.append_nil, Value.depthOfItems, if_pos hdepth]
      exact runWithin_close _ rfl (Nat.le_of_succ_le hdepth) rest
  | item :: items, done, stack, rest, hlegible, hdepth => by
      obtain ⟨hitem, hitems⟩ := List.forall_mem_cons.mp hlegible
      rw [Value.itemTokens, List.cons_append, List.append_assoc, runWithin_comma rfl hdepth,
        runWithin_tokens item (.items done :: stack) _ (Or.inl rfl) hitem hdepth,
        Value.depthOfItems, List.length_cons]
      by_cases hfirst : stack.length + 1 + item.depth ≤ levels
      · rw [if_pos hfirst]
        refine (runWithin_itemTokens items (item :: done) stack rest hitems hdepth).trans ?_
        rw [List.reverse_cons, List.append_assoc, List.singleton_append]
        exact if_congr (by omega) rfl rfl
      · rw [if_neg hfirst, if_neg (by omega)]

theorem runWithin_fieldTokens :
    ∀ (fields done : List (CodeString × Value)) (stack : List Frame) (rest : List Token),
      (Fields.names (done ++ fields)).Nodup →
        (∀ field ∈ fields, field.2.Everywhere Value.IsLegible) → stack.length + 1 ≤ levels →
          (running (.fields done :: stack) .separator).runWithin levels
              (Value.fieldTokens fields ++ (.closeObject :: rest)) =
            if stack.length + 1 + Value.depthOfFields fields ≤ levels then
              (delivered (.object (done ++ fields)) stack).bind fun next =>
                next.runWithin levels rest
            else .error .tooDeep
  | [], done, stack, rest, _, _, hdepth => by
      rw [List.append_nil, Value.depthOfFields, if_pos hdepth]
      exact runWithin_close _ rfl (Nat.le_of_succ_le hdepth) rest
  | (name, value) :: fields, done, stack, rest, hnames, hlegible, hdepth => by
      obtain ⟨hvalue, hfields⟩ := List.forall_mem_cons.mp hlegible
      have hnew : name ∉ Fields.names done := by
        rw [Fields.names, List.map_append, List.map_cons] at hnames
        exact fun hmem => (List.nodup_append.mp hnames).2.2 name hmem name List.mem_cons_self rfl
      have hsplit : done ++ (name, value) :: fields = (done ++ [(name, value)]) ++ fields := by
        rw [List.append_assoc, List.singleton_append]
      rw [Value.fieldTokens, List.cons_append, List.cons_append, List.cons_append,
        List.append_assoc, runWithin_comma rfl hdepth, runWithin_name (Or.inl rfl) hdepth,
        runWithin_tokens value (.field done name :: stack) _ (Or.inl rfl) hvalue hdepth,
        Value.depthOfFields, List.length_cons]
      by_cases hfirst : stack.length + 1 + value.depth ≤ levels
      · have hinsert : delivered value (.field done name :: stack) =
            .ok (running (.fields (done ++ [(name, value)]) :: stack) .separator) := by
          rw [← Fields.insert_of_not_mem hnew]
          rfl
        rw [if_pos hfirst, hinsert]
        refine (runWithin_fieldTokens fields _ stack rest (hsplit ▸ hnames) hfields
          hdepth).trans ?_
        rw [hsplit]
        exact if_congr (by omega) rfl rfl
      · rw [if_neg hfirst, if_neg (by omega)]

end

end Machine

/-! ## The round trip -/

/-- The document of a value is read as the value, however it is laid out, or the value nests too
deep to be read. -/
theorem read_write {style : Style} (hstyle : style.IsProper) {value : Value}
    (h : value.Everywhere Value.IsLegible) (levels : Nat) :
    read levels (value.write style 0) =
      if value.depth ≤ levels then .ok value else .error .tooDeep := by
  have hlexes : Lexes (value.write style 0 ++ []) value.tokens [] :=
    lexes_write hstyle value 0 h nofun
  rw [List.append_nil] at hlexes
  have hrun := Machine.runWithin_tokens value [] [] (Or.inl rfl) h (Nat.zero_le levels)
  rw [List.append_nil, List.length_nil, Nat.zero_add] at hrun
  rw [Machine.read_of_lexes hlexes, Machine.start, hrun]
  split <;> rfl

end QueryBridge.Json
