import QueryBridge.Log.Setup
import QueryBridge.Proofs.Log.Handle

/-!
# Derivations of handles

How a handle was made can be read off the steps alone: a logger, and what was bound on the way
from there.  The extras of the handle are all values that were bound, in turn, and its redactor
is the one that was bound last.
-/

namespace QueryBridge.Log

open Hub (plainExtras)

/-! ## Derivations -/

/-- What a handle has from the step that made it. -/
inductive Link where
  | extras (extras : Fields Json.Value)
  | redactor (index : Nat)

namespace Link

/-- The values that a link gives. -/
def values : Link → Fields Json.Value
  | .extras given => nonNull given
  | .redactor _ => []

def redactor? : Link → Option Nat
  | .extras _ => none
  | .redactor index => some index

end Link

/-- The logger of a handle, and what was bound on the way to the handle, in order. -/
structure Derivation where
  logger : String
  links : List Link

namespace Derivation

def extend (derivation : Derivation) (link : Link) : Derivation :=
  { derivation with links := derivation.links ++ [link] }

/-- All values that were given. -/
def values (derivation : Derivation) : Fields Json.Value :=
  derivation.links.flatMap Link.values

theorem values_extend (derivation : Derivation) (link : Link) :
    (derivation.extend link).values = derivation.values ++ link.values := by
  simp [values, extend]

/-- The redactor that was bound last. -/
def redactor? (derivation : Derivation) : Option Nat :=
  (derivation.links.filterMap Link.redactor?).getLast?

theorem redactor?_extend_extras (derivation : Derivation) (extras : Fields Json.Value) :
    (derivation.extend (.extras extras)).redactor? = derivation.redactor? := by
  simp [redactor?, extend, Link.redactor?]

end Derivation

/-- The derivations after a further step. -/
def derivationsWith (derivations : List Derivation) : Step → List Derivation
  | .getLogger _ name _ extras =>
      derivations ++ [⟨Hub.normalName name, [.extras extras]⟩]
  | .rawLogger name => derivations ++ [⟨Hub.normalName name, []⟩]
  | .bind handle extras => derive derivations handle (·.extend (.extras extras))
  | .bindRedactor handle redactor => derive derivations handle (·.extend (.redactor redactor))
  | .configure .. | .newRedactor _ | .addSecrets .. | .clearSecrets _ | .log .. => derivations

/-- The derivations of all handles that a history makes. -/
def derivations (history : List Step) : List Derivation :=
  history.foldl derivationsWith []

theorem derivations_concat (history : List Step) (step : Step) :
    derivations (history ++ [step]) = derivationsWith (derivations history) step :=
  List.foldl_append

/-! ## Handles and their derivations -/

/-- The handle is what its derivation makes of it. -/
structure Handle.Follows (handle : Handle) (derivation : Derivation) : Prop where
  logger : handle.logger = derivation.logger
  proper : AreProper handle.extras
  values : plainExtras handle.extras = Fields.ofList derivation.values
  redactor : Fields.get? handle.extras redactorKey = derivation.redactor?.map Extra.redactor

namespace Handle.Follows

variable {handle : Handle} {derivation : Derivation}

theorem bind (h : handle.Follows derivation) {extras : Fields Json.Value}
    (hextras : HasFreeNames extras) :
    (handle.bind extras).Follows (derivation.extend (.extras extras)) := by
  obtain ⟨hproper, hplain, hredactor⟩ := override_values h.proper hextras.nonNull
  rw [← dropNulls_eq] at hproper hplain hredactor
  refine ⟨h.logger, hproper, hplain.trans ?_, hredactor.trans ?_⟩
  · rw [h.values, Derivation.values_extend]
    exact List.foldl_append.symm
  · rw [h.redactor, Derivation.redactor?_extend_extras]

theorem bindRedactor (h : handle.Follows derivation) (index : Nat) :
    (handle.bindRedactor index).Follows (derivation.extend (.redactor index)) := by
  refine ⟨h.logger, h.proper.insert rfl, (plainExtras_insert_redactor h.proper index).trans ?_, ?_⟩
  · rw [h.values, Derivation.values_extend]
    exact congrArg Fields.ofList (List.append_nil _).symm
  · unfold Handle.bindRedactor
    rw [Fields.get?_insert_self]
    simp [Derivation.redactor?, Derivation.extend, Link.redactor?]

theorem of_raw (name : String) : Handle.Follows ⟨name, []⟩ ⟨name, []⟩ :=
  ⟨rfl, fun _ hextra => absurd hextra List.not_mem_nil, rfl, rfl⟩

/-- A new logger has its extras as if they had been bound to a raw one. -/
theorem of_getLogger (name : String) {extras : Fields Json.Value} (hextras : HasFreeNames extras) :
    Handle.Follows ⟨name, Fields.ofList (dropNulls extras)⟩ ⟨name, [.extras extras]⟩ :=
  (of_raw name).bind hextras

end Handle.Follows

end QueryBridge.Log
