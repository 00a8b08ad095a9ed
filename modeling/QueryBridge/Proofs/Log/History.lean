import Mathlib.Data.List.Induction
import QueryBridge.Proofs.Log.Derivation
import QueryBridge.Proofs.Log.Holding

/-!
# Records over a history of steps

What a record holds depends on the derivation of its handle, and on what the redactor of that
derivation holds when the record is made.  Other handles of the same logger do not matter, nor
do other redactors.
-/

namespace QueryBridge.Log

open Hub (plainExtras)

/-! ## One step -/

theorem forall₂_derive {α β : Type} {R : α → β → Prop} {first : List α} {second : List β}
    (h : List.Forall₂ R first second) {make : α → α} {make' : β → β}
    (hmake : ∀ a b, R a b → R (make a) (make' b)) (index : Nat) :
    List.Forall₂ R (derive first index make) (derive second index make') := by
  have hmember := rel_getElem?_of_forall₂ h index
  generalize hfirst : first[index]? = made at hmember
  generalize hsecond : second[index]? = made' at hmember
  unfold derive
  rw [hfirst, hsecond]
  refine List.rel_append h ?_
  cases hmember with
  | none => exact .nil
  | some hmember => exact .cons (hmake _ _ hmember) .nil

/-- The extras that a step supplies. -/
def Step.extras : Step → Fields Json.Value
  | getLogger _ _ _ extras | bind _ extras | log _ _ _ extras => extras
  | _ => []

/-- The setup is what a history makes of it. -/
structure Setup.Follows (setup : Setup) (history : List Step) : Prop where
  handles : List.Forall₂ Handle.Follows setup.handles (derivations history)
  inUse : ∀ handle ∈ setup.handles, handle.logger ≠ "" ∧ handle.logger ∈ setup.hub.inUse
  made : setup.hub.redactors.length = redactorsMade history
  holds : ∀ index secret, secret ∈ (setup.hub.redactor index).secrets ↔ Holds history index secret

namespace Hub

theorem normalName_ne (name : String) : normalName name ≠ "" := by
  unfold normalName
  split
  · decide
  · next hname => exact hname

theorem redactor_of_length_le {hub : Hub} {index : Nat} (h : hub.redactors.length ≤ index) :
    hub.redactor index = .empty := by
  unfold redactor
  rw [List.getElem?_eq_none h]
  rfl

theorem inUse_register (hub : Hub) (name : String) :
    name ∈ (hub.register name).inUse ∧ hub.inUse ⊆ (hub.register name).inUse := by
  unfold register
  split
  · next hused => exact ⟨by simpa using hused, List.Subset.refl _⟩
  · exact ⟨List.mem_append_right _ (List.mem_singleton_self name), List.subset_append_left _ _⟩

theorem inUse_getLogger (hub : Hub) (environment : Option String) (name : String)
    (level : Option Level.Choice) (extras : Fields Json.Value) :
    (hub.getLogger environment name level extras).1.inUse =
      ((hub.configure environment level false).register (normalName name)).inUse := by
  unfold getLogger
  cases level with
  | none => rfl
  | some choice => exact (setLevel_keeps _ _ _).1

end Hub

namespace Setup

variable {setup : Setup} {history : List Step} {step : Step}

theorem forall₂_perform (h : List.Forall₂ Handle.Follows setup.handles (derivations history))
    (hstep : HasFreeNames step.extras) :
    List.Forall₂ Handle.Follows (setup.perform step).handles (derivations (history ++ [step])) := by
  rw [derivations_concat]
  cases step with
  | getLogger environment name level extras => exact forall₂_concat h (.of_getLogger _ hstep)
  | rawLogger name => exact forall₂_concat h (.of_raw _)
  | bind handle extras => exact forall₂_derive h (fun _ _ hmember => hmember.bind hstep) handle
  | bindRedactor handle redactor =>
      exact forall₂_derive h (fun _ _ hmember => hmember.bindRedactor redactor) handle
  | configure environment level force => exact h
  | newRedactor secrets => exact h
  | addSecrets redactor secrets => exact h
  | clearSecrets redactor => exact h
  | log handle message level extras => exact h

/-- A derived handle has the logger of the one that it is derived from. -/
theorem exists_of_mem_derive {handles : List Handle} {index : Nat} {make : Handle → Handle}
    (hmake : ∀ handle, (make handle).logger = handle.logger) {handle : Handle}
    (h : handle ∈ derive handles index make) : ∃ other ∈ handles, handle.logger = other.logger := by
  rcases List.mem_append.mp h with h | h
  · exact ⟨handle, h, rfl⟩
  · obtain ⟨parent, hparent, rfl⟩ := Option.map_eq_some_iff.mp (Option.mem_toList.mp h)
    exact ⟨parent, List.mem_of_getElem? hparent, hmake parent⟩

theorem inUse_perform
    (h : ∀ handle ∈ setup.handles, handle.logger ≠ "" ∧ handle.logger ∈ setup.hub.inUse)
    (step : Step) :
    ∀ handle ∈ (setup.perform step).handles,
      handle.logger ≠ "" ∧ handle.logger ∈ (setup.perform step).hub.inUse := by
  intro handle hhandle
  cases step with
  | getLogger environment name level extras =>
      have hregistered := Hub.inUse_register (setup.hub.configure environment level false)
        (Hub.normalName name)
      unfold perform at hhandle ⊢
      dsimp only at hhandle ⊢
      rw [Hub.inUse_getLogger]
      rcases List.mem_append.mp hhandle with hhandle | hhandle
      · rw [(Hub.configure_keeps _ _ _ _).1] at hregistered
        exact ⟨(h handle hhandle).1, hregistered.2 (h handle hhandle).2⟩
      · rw [List.mem_singleton.mp hhandle]
        exact ⟨Hub.normalName_ne name, hregistered.1⟩
  | rawLogger name =>
      have hregistered := Hub.inUse_register setup.hub (Hub.normalName name)
      rcases List.mem_append.mp hhandle with hhandle | hhandle
      · exact ⟨(h handle hhandle).1, hregistered.2 (h handle hhandle).2⟩
      · rw [List.mem_singleton.mp hhandle]
        exact ⟨Hub.normalName_ne name, hregistered.1⟩
  | bind index extras =>
      have hlogger (other : Handle) : (other.bind extras).logger = other.logger := rfl
      obtain ⟨other, hother, hlogger⟩ := exists_of_mem_derive hlogger hhandle
      rw [hlogger]
      exact h other hother
  | bindRedactor index redactor =>
      have hlogger (other : Handle) : (other.bindRedactor redactor).logger = other.logger := rfl
      obtain ⟨other, hother, hlogger⟩ := exists_of_mem_derive hlogger hhandle
      rw [hlogger]
      exact h other hother
  | configure environment level force =>
      unfold perform
      dsimp only
      rw [(Hub.configure_keeps _ _ _ _).1]
      exact h handle hhandle
  | newRedactor secrets => exact h handle hhandle
  | addSecrets redactor secrets => exact h handle hhandle
  | clearSecrets redactor => exact h handle hhandle
  | log index message level extras => exact h handle hhandle

theorem length_redactors_perform (setup : Setup) (step : Step) :
    (setup.perform step).hub.redactors.length =
      setup.hub.redactors.length + if step.makesRedactor then 1 else 0 := by
  cases step with
  | configure environment level force =>
      exact congrArg List.length (Hub.configure_keeps setup.hub environment level force).2
  | getLogger environment name level extras =>
      exact congrArg List.length (Hub.redactors_getLogger setup.hub environment name level extras)
  | rawLogger name => exact congrArg List.length (Hub.redactors_register setup.hub _)
  | newRedactor secrets => exact List.length_append
  | addSecrets redactor secrets => exact List.length_modify _ _ _
  | clearSecrets redactor => exact List.length_modify _ _ _
  | bind handle extras => rfl
  | bindRedactor handle redactor => rfl
  | log handle message level extras => rfl

/-- A step clears a redactor, or adds what it gives to it. -/
theorem redactor_perform (setup : Setup) (step : Step) (index : Nat)
    (secret : CodeString) :
    secret ∈ ((setup.perform step).hub.redactor index).secrets ↔
      Redactor.minLength ≤ secret.length ∧
          secret ∈ step.secretsFor setup.hub.redactors.length index ∨
        step ≠ .clearSecrets index ∧ secret ∈ (setup.hub.redactor index).secrets := by
  have hsame (hredactor : (setup.perform step).hub.redactor index = setup.hub.redactor index)
      (hgiven : step.secretsFor setup.hub.redactors.length index = [])
      (hstep : step ≠ .clearSecrets index) :
      secret ∈ ((setup.perform step).hub.redactor index).secrets ↔
        Redactor.minLength ≤ secret.length ∧
            secret ∈ step.secretsFor setup.hub.redactors.length index ∨
          step ≠ .clearSecrets index ∧ secret ∈ (setup.hub.redactor index).secrets := by
    simp [hredactor, hgiven, hstep]
  -- only the last three kinds of steps touch redactors, and only one redactor each
  cases step with
  | configure environment level force =>
      exact hsame (Hub.redactor_congr (Hub.configure_keeps _ _ _ _).2 index) rfl nofun
  | getLogger environment name level extras =>
      exact hsame (Hub.redactor_congr
        (Hub.redactors_getLogger setup.hub environment name level extras) index) rfl nofun
  | rawLogger name =>
      exact hsame (Hub.redactor_congr (Hub.redactors_register _ _) index) rfl nofun
  | bind handle extras => exact hsame rfl rfl nofun
  | bindRedactor handle redactor => exact hsame rfl rfl nofun
  | log handle message level extras => exact hsame rfl rfl nofun
  | newRedactor secrets =>
      have hmade : (setup.perform (.newRedactor secrets)).hub.redactor index = _ :=
        Hub.redactor_addRedactor setup.hub secrets index
      by_cases hindex : index = setup.hub.redactors.length
      · subst hindex
        rw [if_pos rfl] at hmade
        rw [hmade, Redactor.mem_secrets_add, Hub.redactor_of_length_le (Nat.le_refl _)]
        simp [Step.secretsFor, Redactor.empty, and_comm]
      · rw [if_neg hindex] at hmade
        exact hsame hmade (if_neg hindex) nofun
  | addSecrets changed secrets =>
      have hchanged : (setup.perform (.addSecrets changed secrets)).hub.redactor index = _ :=
        Hub.redactor_updateRedactor setup.hub changed (·.add secrets) index
      by_cases hindex : changed = index ∧ index < setup.hub.redactors.length
      · rw [if_pos hindex] at hchanged
        rw [hchanged, Redactor.mem_secrets_add, Step.secretsFor, if_pos hindex, or_comm, and_comm]
        simp
      · rw [if_neg hindex] at hchanged
        exact hsame hchanged (if_neg hindex) nofun
  | clearSecrets changed =>
      have hchanged : (setup.perform (.clearSecrets changed)).hub.redactor index = _ :=
        Hub.redactor_updateRedactor setup.hub changed (fun _ => .empty) index
      by_cases hindex : changed = index
      · subst hindex
        have hempty : (setup.perform (.clearSecrets changed)).hub.redactor changed = .empty := by
          refine hchanged.trans ?_
          split
          · rfl
          · next hnone => exact Hub.redactor_of_length_le (by simpa using hnone)
        rw [hempty]
        simp [Step.secretsFor, Redactor.empty]
      · rw [if_neg fun h => hindex h.1] at hchanged
        exact hsame hchanged rfl fun heq => hindex (Step.clearSecrets.inj heq)

/-- A step keeps the setup what the history makes of it. -/
theorem Follows.perform (h : setup.Follows history) (hstep : HasFreeNames step.extras) :
    (setup.perform step).Follows (history ++ [step]) where
  handles := forall₂_perform h.handles hstep
  inUse := inUse_perform h.inUse step
  made := by rw [length_redactors_perform, h.made, redactorsMade_concat]
  holds index secret := by rw [redactor_perform, h.made, h.holds, holds_concat]

/-! ## All steps -/

theorem records_log {made : Handle} {handle : Nat} (h : setup.handles[handle]? = some made)
    {message : CodeString} {level : Level} {extras : Fields Json.Value} :
    setup.records (.log handle message level extras) =
      setup.hub.log made message level extras := by
  unfold records
  dsimp only
  rw [h]

theorem after_concat (start : Setup) (history : List Step) (step : Step) :
    start.after (history ++ [step]) = (start.after history).perform step :=
  List.foldl_append

theorem follows_initial : initial.Follows [] where
  handles := .nil
  inUse _ hhandle := absurd hhandle List.not_mem_nil
  made := rfl
  holds index secret :=
    iff_of_false List.not_mem_nil (not_holds_nil index secret)

theorem follows_after (h : ∀ step ∈ history, HasFreeNames step.extras) :
    (initial.after history).Follows history := by
  induction history using List.reverseRecOn with
  | nil => exact follows_initial
  | append_singleton history step ih =>
      obtain ⟨hearlier, hstep⟩ := List.forall_mem_append.mp h
      rw [after_concat]
      exact (ih hearlier).perform (hstep step (List.mem_singleton_self step))

end Setup

/-! ## Records -/

/-- An entry reaches all loggers in use, masked by the redactor among the extras. -/
theorem Hub.log_of_areProper (hub : Hub) (handle : Handle) (message : CodeString) (level : Level)
    (extras : Fields Json.Value) (h : AreProper (handle.bind extras).extras) :
    hub.log handle message level extras = .ok (if hub.isEnabled handle.logger level then
        ((lineage handle.logger).filter hub.inUse.contains).map fun _ =>
          hub.maskBy (handle.bind extras).extras
            ⟨level, handle.logger, message, plainExtras (handle.bind extras).extras⟩
      else []) := by
  have hnames :
      (Fields.names (handle.bind extras).extras).find? attributeNames.contains = none := by
    rw [List.find?_eq_none]
    intro name hname
    obtain ⟨extra, hextra, rfl⟩ := List.mem_map.mp hname
    simpa using h.name_not_mem hextra
  unfold Handle.bind at hnames ⊢
  dsimp only at hnames ⊢
  unfold Hub.log
  dsimp only
  rw [hnames]
  cases hub.isEnabled handle.logger level <;> rfl

theorem Hub.maskBy_of_none {hub : Hub} {extras : Fields Extra}
    (h : Fields.get? extras redactorKey = none) (record : Record) :
    hub.maskBy extras record = record := by
  unfold maskBy
  rw [h]

theorem Hub.maskBy_of_redactor {hub : Hub} {extras : Fields Extra} {index : Nat}
    (h : Fields.get? extras redactorKey = some (.redactor index)) (record : Record) :
    hub.maskBy extras record = record.redact (hub.redactor index) := by
  unfold maskBy
  rw [h]

namespace Setup

/-- A record that is made through a handle holds what was bound on the way to the handle and what
the entry adds, in turn.  If a redactor was bound on that way, the last one masks the message and
all texts among the extras with what it holds when the record is made; else nothing is masked. -/
theorem bound_redactor_masks_own_records (history : List Step) (handle : Nat)
    (derivation : Derivation) (message : CodeString) (level : Level) (extras : Fields Json.Value)
    (hhistory : ∀ step ∈ history, HasFreeNames step.extras) (hextras : HasFreeNames extras)
    (hderivation : (derivations history)[handle]? = some derivation) :
    let setup := initial.after history
    let unmasked : Record := ⟨level, derivation.logger, message,
      Fields.ofList (derivation.values ++ nonNull extras)⟩
    ∃ records, setup.records (.log handle message level extras) = .ok records ∧
      (records = [] ↔ setup.hub.isEnabled derivation.logger level = false) ∧
      ∀ record ∈ records,
        (derivation.redactor? = none → record = unmasked) ∧
        ∀ index, derivation.redactor? = some index →
          ∃ redactor : Redactor,
            (∀ secret, secret ∈ redactor.secrets ↔ Holds history index secret) ∧
            record = unmasked.redact redactor ∧
            record.line = (unmasked.mapTexts redactor.redact).line := by
  intro setup unmasked
  have hfollows : setup.Follows history := follows_after hhistory
  obtain ⟨made, hmade, hmember⟩ : ∃ made, setup.handles[handle]? = some made ∧
      made.Follows derivation := by
    have hrel := rel_getElem?_of_forall₂ hfollows.handles handle
    rw [hderivation] at hrel
    generalize setup.handles[handle]? = found at hrel ⊢
    cases hrel with
    | some hmember => exact ⟨_, rfl, hmember⟩
  -- an entry has the extras of a handle that its own are bound to
  have hbound := hmember.bind hextras
  have hvalues : plainExtras (made.bind extras).extras = unmasked.extras := by
    rw [hbound.values, Derivation.values_extend]
    rfl
  have hredactor : Fields.get? (made.bind extras).extras redactorKey =
      derivation.redactor?.map Extra.redactor := by
    rw [hbound.redactor, Derivation.redactor?_extend_extras]
  have hlog := setup.hub.log_of_areProper made message level extras hbound.proper
  rw [hvalues, hmember.logger] at hlog
  refine ⟨_, (records_log hmade).trans hlog, ?_, ?_⟩
  · -- the logger of the handle is in use, and belongs to its own lineage
    obtain ⟨hname, hused⟩ := hfollows.inUse made (List.mem_of_getElem? hmade)
    rw [hmember.logger] at hname hused
    have hreached : derivation.logger ∈
        (Hub.lineage derivation.logger).filter setup.hub.inUse.contains :=
      List.mem_filter.mpr ⟨Hub.mem_lineage hname, by simpa using hused⟩
    cases setup.hub.isEnabled derivation.logger level with
    | false => simp
    | true => simpa using ⟨_, Hub.mem_lineage hname, hused⟩
  · intro record hrecord
    have hrecord : record = setup.hub.maskBy (made.bind extras).extras unmasked := by
      split at hrecord
      · obtain ⟨name, -, rfl⟩ := List.mem_map.mp hrecord
        rfl
      · cases hrecord
    refine ⟨fun hnone => ?_, fun index hindex => ?_⟩
    · rw [hnone] at hredactor
      rw [hrecord, Hub.maskBy_of_none hredactor]
    · rw [hindex] at hredactor
      rw [hrecord, Hub.maskBy_of_redactor hredactor]
      exact ⟨_, hfollows.holds index, rfl, Record.line_redact _ unmasked⟩

/-- The third handle of a logger has the redactor of the second, which has got a secret since, and
not the one that has been bound to the second for a fourth. -/
theorem derived_handle_keeps_redactor :
    let history : List Step := [.newRedactor ["abc"], .newRedactor ["beta"],
      .getLogger none "app" none [("operation", .text "count"), ("url", .null)],
      .bindRedactor 0 0, .bind 1 [("note", .text "gamma, beta")], .bindRedactor 1 1,
      .addSecrets 0 ["gamma"]]
    let unmasked : Record := ⟨Level.info, "app", "beta, gamma, abc",
      [("operation", .text "size"), ("note", .text "gamma, beta"), ("attempt", .int 2)]⟩
    ∃ records,
      (initial.after history).records (.log 2 "beta, gamma, abc" Level.info
        [("operation", .text "size"), ("attempt", .int 2)]) = .ok records ∧
      records.map Record.line =
        ["INFO | app | beta, ***, abc | operation=size attempt=2 note=***, beta"] ∧
      ∀ record ∈ records, ∃ redactor : Redactor,
        (∀ secret, secret ∈ redactor.secrets ↔ Holds history 0 secret) ∧
          record = unmasked.redact redactor := by
  intro history unmasked
  have hlines : ((initial.after history).records (.log 2 "beta, gamma, abc" Level.info
      [("operation", .text "size"), ("attempt", .int 2)])).map (·.map Record.line) =
        .ok ["INFO | app | beta, ***, abc | operation=size attempt=2 note=***, beta"] := by
    decide +kernel
  obtain ⟨records, hrecords, -, hmasked⟩ := bound_redactor_masks_own_records history 2
    ⟨"app", [.extras [("operation", .text "count"), ("url", .null)], .redactor 0,
      .extras [("note", .text "gamma, beta")]]⟩ "beta, gamma, abc" Level.info
    [("operation", .text "size"), ("attempt", .int 2)] (by decide) (by decide) rfl
  rw [hrecords] at hlines
  refine ⟨records, hrecords, Except.ok.inj hlines, fun record hrecord => ?_⟩
  obtain ⟨redactor, hholds, hrecord, -⟩ := (hmasked record hrecord).2 0 rfl
  exact ⟨redactor, hholds, hrecord⟩

end Setup

end QueryBridge.Log
