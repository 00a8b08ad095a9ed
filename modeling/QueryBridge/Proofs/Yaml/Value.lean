import QueryBridge.Proofs.Failure
import QueryBridge.Yaml.Document

/-!
# Errors of the values

The value of a node is wrong because of a scalar in its tree that looks like a value of some kind
but is none.  All else that can be wrong with it is a syntax error, or a set whose order is not
determined.  Entries that are merged into a mapping come from its tree as well.
-/

namespace QueryBridge.Yaml

namespace Node

/-! ## The tree of a node -/

/-- The node stands in the tree below another one, which is its root. -/
inductive IsPart (part : Node) : Node → Prop
  | root : IsPart part part
  | item {tag : Tag} {items : List Node} {item : Node} (hitem : item ∈ items)
      (h : IsPart part item) : IsPart part (.sequence tag items)
  | key {tag : Tag} {entries : List (Node × Node)} {key value : Node}
      (hentry : (key, value) ∈ entries) (h : IsPart part key) : IsPart part (.mapping tag entries)
  | value {tag : Tag} {entries : List (Node × Node)} {key value : Node}
      (hentry : (key, value) ∈ entries) (h : IsPart part value) :
      IsPart part (.mapping tag entries)

variable {part node root : Node} {tag : Tag} {items : List Node} {entries : List (Node × Node)}

theorem IsPart.trans (h : IsPart part node) (hroot : IsPart node root) : IsPart part root := by
  induction hroot with
  | root => exact h
  | item hitem _ ih => exact .item hitem ih
  | key hentry _ ih => exact .key hentry ih
  | value hentry _ ih => exact .value hentry ih

/-- The node stands in the tree of a key or a value. -/
def IsWithin (part : Node) (entries : List (Node × Node)) : Prop :=
  ∃ entry ∈ entries, IsPart part entry.1 ∨ IsPart part entry.2

theorem IsWithin.isPart (h : IsWithin part entries) : IsPart part (.mapping tag entries) := by
  obtain ⟨⟨key, value⟩, hentry, h | h⟩ := h
  · exact .key hentry h
  · exact .value hentry h

theorem IsWithin.cons (entry : Node × Node) (h : IsWithin part entries) :
    IsWithin part (entry :: entries) := by
  obtain ⟨other, hother, h⟩ := h
  exact ⟨other, List.mem_cons_of_mem _ hother, h⟩

/-! ## Merging -/

/-- The key and the value of the entry stand in the tree of the node, the key perhaps as one with
a default value. -/
def IsEntryOf (node : Node) (entry : Node × Node) : Prop :=
  ∃ key : Node, entry.1 = key.asKey ∧ IsPart key node ∧ IsPart entry.2 node

/-- The same of the trees of the keys and the values of entries. -/
def IsEntryWithin (entries : List (Node × Node)) (entry : Node × Node) : Prop :=
  ∃ key : Node, entry.1 = key.asKey ∧ IsWithin key entries ∧ IsWithin entry.2 entries

theorem IsEntryWithin.isEntryOf {entry : Node × Node} (h : IsEntryWithin entries entry) :
    IsEntryOf (.mapping tag entries) entry := by
  obtain ⟨key, heq, hkey, hvalue⟩ := h
  exact ⟨key, heq, hkey.isPart, hvalue.isPart⟩

theorem IsEntryWithin.cons {entry : Node × Node} (other : Node × Node)
    (h : IsEntryWithin entries entry) : IsEntryWithin (other :: entries) entry := by
  obtain ⟨key, heq, hkey, hvalue⟩ := h
  exact ⟨key, heq, hkey.cons other, hvalue.cons other⟩

theorem isEntryWithin_own (key value : Node) (rest : List (Node × Node)) :
    IsEntryWithin ((key, value) :: rest) (key.asKey, value) :=
  ⟨key, rfl, ⟨(key, value), List.mem_cons_self, .inl .root⟩,
    ⟨(key, value), List.mem_cons_self, .inr .root⟩⟩

theorem IsEntryOf.isEntryWithin {key value : Node} {entry : Node × Node}
    (h : IsEntryOf value entry) (rest : List (Node × Node)) :
    IsEntryWithin ((key, value) :: rest) entry := by
  obtain ⟨other, heq, hkey, hvalue⟩ := h
  exact ⟨other, heq, ⟨(key, value), List.mem_cons_self, .inr hkey⟩,
    ⟨(key, value), List.mem_cons_self, .inr hvalue⟩⟩

/-- A value that cannot be merged has a syntax error, and what is merged comes from its tree. -/
def Merges (node : Node) : Prop :=
  EndsWith (· = Error.syntaxError) (fun found => ∀ entry ∈ found, IsEntryOf node entry) node.merged

/-- The same of the items of a sequence. -/
def MergesItems (items : List Node) : Prop :=
  EndsWith (· = Error.syntaxError)
    (fun found => ∀ part ∈ found, ∀ entry ∈ part, ∃ item ∈ items, IsEntryOf item entry)
    (mergedItems items)

/-- The same of the entries of a mapping, with those that it has of its own. -/
def MergesEntries (entries : List (Node × Node)) : Prop :=
  EndsWith (· = Error.syntaxError)
    (fun parts => ∀ entry ∈ parts.1 ++ parts.2, IsEntryWithin entries entry)
    (mergedAndOwn entries)

theorem MergesEntries.merges_mapping (h : MergesEntries entries) (tag : Tag) :
    Merges (.mapping tag entries) := by
  unfold Merges
  rw [merged]
  exact h.bind fun parts hparts entry hentry => (hparts entry hentry).isEntryOf

theorem MergesItems.merges_sequence (h : MergesItems items) (tag : Tag) :
    Merges (.sequence tag items) := by
  unfold Merges
  rw [merged]
  refine h.bind fun found hfound entry hentry => ?_
  obtain ⟨part, hpart, hentry⟩ := List.mem_flatten.mp hentry
  obtain ⟨item, hitem, key, heq, hkey, hvalue⟩ :=
    hfound part (List.mem_reverse.mp hpart) entry hentry
  exact ⟨key, heq, .item hitem hkey, .item hitem hvalue⟩

theorem MergesItems.cons_mapping (hentries : MergesEntries entries) (tag : Tag)
    (h : MergesItems items) : MergesItems (.mapping tag entries :: items) := by
  unfold MergesItems
  rw [mergedItems]
  refine hentries.bind fun parts hparts => h.bind fun found hfound => ?_
  refine List.forall_mem_cons.mpr ⟨fun entry hentry => ?_, fun part hpart entry hentry => ?_⟩
  · exact ⟨_, List.mem_cons_self, (hparts entry hentry).isEntryOf⟩
  · obtain ⟨item, hitem, h⟩ := hfound part hpart entry hentry
    exact ⟨item, List.mem_cons_of_mem _ hitem, h⟩

theorem mergesItems_of_ne_mapping (h : ∀ tag entries, node ≠ .mapping tag entries)
    (items : List Node) : MergesItems (node :: items) := by
  cases node with
  | mapping tag entries => exact absurd rfl (h tag entries)
  | _ => exact rfl

theorem MergesEntries.cons_merge {key value : Node} (hkey : (key.tag == .merge) = true)
    (hvalue : Merges value) (h : MergesEntries entries) :
    MergesEntries ((key, value) :: entries) := by
  unfold MergesEntries
  rw [mergedAndOwn, if_pos hkey]
  refine hvalue.bind fun found hfound => h.bind fun parts hparts entry hentry => ?_
  rw [List.append_assoc, List.mem_append] at hentry
  rcases hentry with hentry | hentry
  · exact (hfound entry hentry).isEntryWithin entries
  · exact (hparts entry hentry).cons _

theorem MergesEntries.cons_own {key value : Node} (hkey : ¬ (key.tag == .merge) = true)
    (h : MergesEntries entries) : MergesEntries ((key, value) :: entries) := by
  unfold MergesEntries
  rw [mergedAndOwn, if_neg hkey]
  refine h.bind fun parts hparts entry hentry => ?_
  rw [List.mem_append, List.mem_cons] at hentry
  rcases hentry with hentry | rfl | hentry
  · exact (hparts entry (List.mem_append_left _ hentry)).cons _
  · exact isEntryWithin_own key value entries
  · exact (hparts entry (List.mem_append_right _ hentry)).cons _

theorem mergesEntries (entries : List (Node × Node)) : MergesEntries entries := by
  -- the cases are those of the three functions that merge
  apply mergedAndOwn.induct Merges MergesItems MergesEntries
  case case1 => exact fun tag entries h => h.merges_mapping tag
  case case2 => exact fun tag items h => h.merges_sequence tag
  case case3 => exact fun tag text => rfl
  case case4 => exact List.forall_mem_nil _
  case case5 => exact fun tag entries items hentries h => h.cons_mapping hentries tag
  case case6 => exact fun node items h => mergesItems_of_ne_mapping h items
  case case7 => exact List.forall_mem_nil _
  case case8 => exact fun key value entries hkey hvalue h => h.cons_merge hkey hvalue
  case case9 => exact fun key value entries hkey h => h.cons_own hkey

theorem endsWith_flatten (tag : Tag) (entries : List (Node × Node)) :
    EndsWith (· = Error.syntaxError)
      (fun found => ∀ entry ∈ found, IsEntryOf (.mapping tag entries) entry) (flatten entries) :=
  (mergesEntries entries).bind fun _ hparts entry hentry => (hparts entry hentry).isEntryOf

/-! ## Values -/

/-- What can be wrong with the value of a node. -/
inductive IsValueFault (root : Node) : Error → Prop
  | syntaxError : IsValueFault root .syntaxError
  | uncovered (reason : Uncovered) : IsValueFault root (.uncovered reason)
  | scalar {part : Node} {text : String} {error : Error} (hpart : IsPart part root)
      (htext : part.scalarText? = some text) (h : scalarDatum part.tag text = .error error) :
      IsValueFault root error

theorem IsValueFault.of_isPart {error : Error} (h : IsValueFault part error)
    (hpart : IsPart part root) : IsValueFault root error := by
  cases h with
  | syntaxError => exact .syntaxError
  | uncovered reason => exact .uncovered reason
  | scalar hbelow htext h => exact .scalar (hbelow.trans hpart) htext h

theorem isPart_or_of_isPart_asKey {key : Node} (h : IsPart part key.asKey) :
    IsPart part key ∨ part.tag = .text := by
  unfold asKey at h
  split at h
  · cases h
    exact .inr rfl
  · cases h with
    | root => exact .inr rfl
    | item hitem h => exact .inl (.item hitem h)
  · cases h with
    | root => exact .inr rfl
    | key hentry h => exact .inl (.key hentry h)
    | value hentry h => exact .inl (.value hentry h)
  · exact .inl h

/-- A key with a default value is a text, and a text is never wrong. -/
theorem IsValueFault.of_asKey {key : Node} {error : Error} (h : IsValueFault key.asKey error) :
    IsValueFault key error := by
  cases h with
  | syntaxError => exact .syntaxError
  | uncovered reason => exact .uncovered reason
  | scalar hpart htext h =>
      rcases isPart_or_of_isPart_asKey hpart with hpart | htag
      · exact .scalar hpart htext h
      · rw [htag] at h
        cases h

/-- Every error that the outcome can be has the property, on whatever level. -/
def OutcomeFails {α : Type} (P : Error → Prop) (outcome : Outcome α) : Prop :=
  FailsOnly (fun found => P found.2) outcome

variable {α β : Type} {P : Error → Prop}

theorem outcomeFails_here {value : Except Error α} (h : FailsOnly P value) :
    OutcomeFails P (Outcome.here value) := by
  cases value with
  | ok value => exact failsOnly_ok value
  | error error => exact failsOnly_error (h error rfl)

theorem here_eq_ok_iff {outcome : Except Error α} {value : α} :
    Outcome.here outcome = .ok value ↔ outcome = .ok value := by
  cases outcome <;> simp [Outcome.here]

theorem OutcomeFails.below {outcome : Outcome α} (h : OutcomeFails P outcome) :
    OutcomeFails P outcome.below := by
  cases outcome with
  | ok value => exact failsOnly_ok value
  | error found => exact failsOnly_error (h found rfl)

theorem OutcomeFails.both {first : Outcome α} {second : Outcome β} (hfirst : OutcomeFails P first)
    (hsecond : OutcomeFails P second) : OutcomeFails P (first.both second) := by
  cases first with
  | ok value =>
      cases second with
      | ok other => exact failsOnly_ok (value, other)
      | error found => exact failsOnly_error (hsecond found rfl)
  | error found =>
      cases second with
      | ok other => exact failsOnly_error (hfirst found rfl)
      | error other =>
          refine failsOnly_error ?_
          split
          · exact hsecond other rfl
          · exact hfirst found rfl

theorem outcomeFails_all {outcomes : List (Outcome α)}
    (h : ∀ outcome ∈ outcomes, OutcomeFails P outcome) : OutcomeFails P (Outcome.all outcomes) := by
  induction outcomes with
  | nil => exact failsOnly_ok []
  | cons outcome rest ih =>
      rw [List.forall_mem_cons] at h
      have hboth := h.1.both (ih h.2)
      unfold Outcome.all
      rw [List.foldr_cons]
      split
      · exact failsOnly_ok _
      · next found heq => exact failsOnly_error (hboth found heq)

variable {step : Node → Outcome Datum}

theorem outcomeFails_of_isPart (hstep : ∀ node, OutcomeFails (IsValueFault node) (step node))
    (h : IsPart part root) : OutcomeFails (IsValueFault root) (step part) :=
  (hstep part).mono fun _ hfault => hfault.of_isPart h

theorem outcomeFails_entryOutcome
    (hstep : ∀ node, OutcomeFails (IsValueFault node) (step node)) {entry : Node × Node}
    (h : IsEntryOf root entry) : OutcomeFails (IsValueFault root) (entryOutcome step entry) := by
  obtain ⟨key, heq, hkey, hvalue⟩ := h
  refine OutcomeFails.both ?_ (outcomeFails_of_isPart hstep hvalue)
  rw [heq]
  refine FailsOnly.ite (failsOnly_error .syntaxError) ?_
  exact (hstep key.asKey).mono fun _ hfault => hfault.of_asKey.of_isPart hkey

theorem outcomeFails_entriesOutcome
    (hstep : ∀ node, OutcomeFails (IsValueFault node) (step node)) (tag : Tag)
    (entries : List (Node × Node)) :
    OutcomeFails (IsValueFault (.mapping tag entries)) (entriesOutcome step entries) := by
  have hflatten := endsWith_flatten tag entries
  have hhere : OutcomeFails (IsValueFault (.mapping tag entries))
      (Outcome.here (flatten entries)) :=
    outcomeFails_here (hflatten.failsOnly.mono fun error heq => heq ▸ .syntaxError)
  refine hhere.bind_of_eq fun found heq => ?_
  rw [here_eq_ok_iff.mp heq] at hflatten
  refine FailsOnly.bind (outcomeFails_all ?_) fun pairs => failsOnly_pure _
  rw [List.forall_mem_map]
  exact fun entry hentry => outcomeFails_entryOutcome hstep (hflatten entry hentry)

theorem outcomeFails_pairOutcome
    (hstep : ∀ node, OutcomeFails (IsValueFault node) (step node)) (node : Node) :
    OutcomeFails (IsValueFault node) (pairOutcome step node) := by
  unfold pairOutcome
  split
  · next tag key value =>
      have hkey : IsPart key (.mapping tag [(key, value)]) := .key List.mem_cons_self .root
      have hvalue : IsPart value (.mapping tag [(key, value)]) := .value List.mem_cons_self .root
      exact ((outcomeFails_of_isPart hstep hkey).both (outcomeFails_of_isPart hstep hvalue)).map _
  · exact failsOnly_error .syntaxError

theorem outcomeFails_setOutcome (root : Node) (members : List Datum) :
    OutcomeFails (IsValueFault root) (setOutcome members) := by
  unfold setOutcome
  split
  · exact failsOnly_ok _
  · exact failsOnly_ok _
  · exact failsOnly_error (.uncovered .unordered)

/-- The value of a node is wrong because of a scalar in its tree, or else has a syntax error or is
not covered. -/
theorem outcomeFails_outcome (fuel : Nat) (node : Node) :
    OutcomeFails (IsValueFault node) (outcome fuel node) := by
  induction fuel generalizing node with
  | zero => exact failsOnly_error .syntaxError
  | succ fuel ih =>
      unfold outcome
      split
      · next tag items _ =>
          refine OutcomeFails.below (FailsOnly.map (outcomeFails_all ?_) _)
          rw [List.forall_mem_map]
          exact fun item hitem => outcomeFails_of_isPart ih (.item hitem .root)
      · next tag entries _ =>
          exact OutcomeFails.below ((outcomeFails_entriesOutcome ih tag entries).map _)
      · next tag entries _ =>
          exact OutcomeFails.below (FailsOnly.bind (outcomeFails_entriesOutcome ih tag entries)
            fun entries => outcomeFails_setOutcome _ (entries.map Prod.fst))
      · next tag items _ =>
          refine OutcomeFails.below (FailsOnly.map (outcomeFails_all ?_) _)
          rw [List.forall_mem_map]
          exact fun item hitem =>
            outcomeFails_of_isPart (outcomeFails_pairOutcome ih) (.item hitem .root)
      · refine FailsOnly.ite (failsOnly_error .syntaxError) ?_
        split
        · next text htext => exact outcomeFails_here fun error h => .scalar .root htext h
        · exact failsOnly_error .syntaxError

theorem failsOnly_toDatum (node : Node) : FailsOnly (IsValueFault node) node.toDatum := by
  have h := outcomeFails_outcome node.height node
  unfold toDatum
  split
  · exact failsOnly_ok _
  · next distance error heq => exact failsOnly_error (h _ heq)

/-- The order of the tokens is wrong, or a fault of the text follows them, or the nodes are not
covered. -/
theorem ofScan_eq_error [Runtime] {tokens : Scan} {error : Error}
    (h : ofScan tokens = .error error) :
    error = .syntaxError ∨ (∃ reason, error = .uncovered reason) ∨
      ∃ fault, tokens.fault = some fault ∧ fault.error = error := by
  unfold ofScan at h
  dsimp only at h
  split at h
  · cases h
  · cases h
    exact .inl rfl
  · cases h
    exact .inr (.inl ⟨_, rfl⟩)
  · cases hfault : tokens.fault with
    | none =>
        rw [hfault] at h
        cases h
        exact .inl rfl
    | some fault =>
        rw [hfault] at h
        cases h
        exact .inr (.inr ⟨fault, rfl, rfl⟩)

end Node

/-! ## Texts -/

variable [Runtime]

/-- What can be wrong with a text: its tokens, their order, or a scalar of the document. -/
inductive IsTextFault (text : List Char) : Error → Prop
  | syntaxError : IsTextFault text .syntaxError
  | uncovered (reason : Uncovered) : IsTextFault text (.uncovered reason)
  | lexical {fault : Fault} (h : Node.ofScan (scan text) = .error fault.error)
      (hfault : (scan text).fault = some fault) : IsTextFault text fault.error
  | scalar {root part : Node} {scalar : String} {error : Error}
      (hroot : Node.ofScan (scan text) = .ok (some root)) (hpart : Node.IsPart part root)
      (htext : part.scalarText? = some scalar)
      (h : Node.scalarDatum part.tag scalar = .error error) : IsTextFault text error

theorem failsOnly_read (text : List Char) : FailsOnly (IsTextFault text) (read text) := by
  unfold read
  dsimp only
  refine FailsOnly.ite (failsOnly_error .syntaxError) (FailsOnly.bind_of_eq ?_ ?_)
  · intro error h
    rcases Node.ofScan_eq_error h with rfl | ⟨reason, rfl⟩ | ⟨fault, hfault, rfl⟩
    · exact .syntaxError
    · exact .uncovered reason
    · exact .lexical h hfault
  · intro root hroot
    cases root with
    | none => exact failsOnly_pure Datum.null
    | some root =>
        refine (Node.failsOnly_toDatum root).mono fun error hfault => ?_
        cases hfault with
        | syntaxError => exact .syntaxError
        | uncovered reason => exact .uncovered reason
        | scalar hpart htext h => exact .scalar hroot hpart htext h

end QueryBridge.Yaml
