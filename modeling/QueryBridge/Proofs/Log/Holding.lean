import QueryBridge.Log.Setup
import QueryBridge.Proofs.Lists
import QueryBridge.Proofs.Log.Redaction

/-!
# The secrets of redactors over time

A redactor holds what it was given, if it is long enough, until it is cleared.
-/

namespace QueryBridge.Log

/-! ## Secrets -/

/-- Whether the step makes a redactor. -/
def Step.makesRedactor : Step → Bool
  | newRedactor _ => true
  | _ => false

def redactorsMade (history : List Step) : Nat :=
  history.countP Step.makesRedactor

/-- What a step gives to a redactor, if so many redactors have been made before. -/
def Step.secretsFor (step : Step) (made index : Nat) : List CodeString :=
  match step with
  | newRedactor secrets => if index = made then secrets else []
  | addSecrets redactor secrets => if redactor = index ∧ index < made then secrets else []
  | _ => []

/-- The redactor has been given the secret, and has not been cleared since. -/
def Holds (history : List Step) (index : Nat) (secret : CodeString) : Prop :=
  Redactor.minLength ≤ secret.length ∧
    ∃ before step later, history = before ++ step :: later ∧
      secret ∈ step.secretsFor (redactorsMade before) index ∧ .clearSecrets index ∉ later

theorem not_holds_nil (index : Nat) (secret : CodeString) : ¬ Holds [] index secret := by
  rintro ⟨-, before, step, later, hhistory, -⟩
  simp at hhistory

theorem redactorsMade_concat (history : List Step) (step : Step) :
    redactorsMade (history ++ [step]) =
      redactorsMade history + if step.makesRedactor then 1 else 0 := by
  simp [redactorsMade, List.countP_append, List.countP_singleton]

/-- Either the last step gave the secret, or it has been held before and was not cleared. -/
theorem holds_concat {history : List Step} {step : Step} {index : Nat} {secret : CodeString} :
    Holds (history ++ [step]) index secret ↔
      Redactor.minLength ≤ secret.length ∧
          secret ∈ step.secretsFor (redactorsMade history) index ∨
        step ≠ .clearSecrets index ∧ Holds history index secret := by
  unfold Holds
  rw [exists_split_concat_iff]
  constructor
  · rintro ⟨hlength, ⟨hgiven, -⟩ | ⟨before, giving, later, rfl, hgiven, hkept⟩⟩
    · exact Or.inl ⟨hlength, hgiven⟩
    · rw [List.mem_append, List.mem_singleton, not_or] at hkept
      exact Or.inr ⟨Ne.symm hkept.2, hlength, before, giving, later, rfl, hgiven, hkept.1⟩
  · rintro (⟨hlength, hgiven⟩ | ⟨hstep, hlength, before, giving, later, rfl, hgiven, hkept⟩)
    · exact ⟨hlength, Or.inl ⟨hgiven, List.not_mem_nil⟩⟩
    · refine ⟨hlength, Or.inr ⟨before, giving, later, rfl, hgiven, ?_⟩⟩
      rw [List.mem_append, List.mem_singleton, not_or]
      exact ⟨hkept, Ne.symm hstep⟩

/-! ## The redactors of a hub -/

namespace Hub

theorem install_keeps (hub : Hub) (level : Level) (handlers : List Handler) (force : Bool) :
    (hub.install level handlers force).inUse = hub.inUse ∧
      (hub.install level handlers force).redactors = hub.redactors := by
  unfold install
  dsimp only
  split <;> split <;> exact ⟨rfl, rfl⟩

/-- Neither the loggers in use nor the redactors are part of the configuration. -/
theorem configure_keeps (hub : Hub) (environment : Option String) (level : Option Level.Choice)
    (force : Bool) :
    (hub.configure environment level force).inUse = hub.inUse ∧
      (hub.configure environment level force).redactors = hub.redactors := by
  unfold configure
  split
  · exact ⟨rfl, rfl⟩
  · exact install_keeps hub _ _ force

theorem setLevel_keeps (hub : Hub) (name : String) (level : Level) :
    (hub.setLevel name level).inUse = hub.inUse ∧
      (hub.setLevel name level).redactors = hub.redactors := by
  unfold setLevel
  split <;> exact ⟨rfl, rfl⟩

theorem redactors_register (hub : Hub) (name : String) :
    (hub.register name).redactors = hub.redactors := by
  unfold register
  split <;> rfl

theorem redactors_getLogger (hub : Hub) (environment : Option String) (name : String)
    (level : Option Level.Choice) (extras : Fields Json.Value) :
    (hub.getLogger environment name level extras).1.redactors = hub.redactors := by
  unfold getLogger
  cases level with
  | none => exact (redactors_register _ _).trans (configure_keeps hub environment none false).2
  | some choice =>
      dsimp only
      rw [(setLevel_keeps _ _ _).2, redactors_register, (configure_keeps _ _ _ _).2]

theorem redactor_congr {first second : Hub} (h : first.redactors = second.redactors)
    (index : Nat) : first.redactor index = second.redactor index := by
  unfold redactor
  rw [h]

theorem redactor_addRedactor (hub : Hub) (secrets : List CodeString) (index : Nat) :
    (hub.addRedactor secrets).1.redactor index =
      if index = hub.redactors.length then Redactor.empty.add secrets else hub.redactor index := by
  unfold addRedactor redactor
  rw [List.getElem?_append]
  split
  · next hlt => rw [if_neg (Nat.ne_of_lt hlt)]
  · next hge =>
    split
    · next heq => simp [heq]
    · next hne =>
      have hbeyond : hub.redactors.length < index :=
        Nat.lt_of_le_of_ne (Nat.le_of_not_lt hge) (Ne.symm hne)
      rw [List.getElem?_eq_none (by simp; omega), List.getElem?_eq_none (Nat.le_of_lt hbeyond)]

theorem redactor_updateRedactor (hub : Hub) (changed : Nat) (change : Redactor → Redactor)
    (index : Nat) :
    (hub.updateRedactor changed change).redactor index =
      if changed = index ∧ index < hub.redactors.length then change (hub.redactor index)
      else hub.redactor index := by
  unfold updateRedactor redactor
  rw [List.getElem?_modify]
  by_cases hlt : index < hub.redactors.length
  · by_cases heq : changed = index
    · simp [heq, hlt]
    · simp [heq]
  · rw [List.getElem?_eq_none (Nat.le_of_not_lt hlt)]
    simp [hlt]

end Hub

end QueryBridge.Log
