import Mathlib.Data.List.Induction
import QueryBridge.Proofs.Bridge.Connection
import QueryBridge.Proofs.Bridge.Credentials

/-!
# Steps and runs of an adapter

One step lemma for each part of the state says what an action does to it; from these, what
a whole run keeps.  The endpoint, the registry, the attempts and the override never change,
the properties change by new values only, and the client by accepted connections only.
-/

namespace QueryBridge.Bridge.Adapter

open QueryBridge.Service (Call Client)

variable [Runtime]

/-! ## Steps -/

/-- An accepted connection replaces the client and informs the redactor. -/
theorem perform_of_accepts {adapter : Adapter} {action : Action}
    (h : adapter.accepts action = true) :
    ∃ authorization, adapter.authorization = .ok authorization ∧
      (adapter.perform action).1 =
        { adapter with
          redactor := adapter.redactor.add authorization.secrets
          client := some (adapter.clientWith authorization) } := by
  cases action with
  | connect replies => exact connect_of_accepts h
  | verify replies =>
      rw [accepts_verify] at h
      exact connect_of_accepts h
  | setProperties values => cases h
  | listProperties => cases h
  | operate operation request replies => cases h

/-- Whatever is not an accepted connection keeps the client. -/
theorem client_perform_of_not_accepts {adapter : Adapter} {action : Action}
    (h : adapter.accepts action = false) : (adapter.perform action).1.client = adapter.client := by
  cases action with
  | connect replies => exact client_connect_of_not_accepts h
  | verify replies =>
      rw [accepts_verify] at h
      exact client_connect_of_not_accepts h
  | setProperties values => rfl
  | listProperties => rfl
  | operate operation request replies => rfl

/-- The parts of an adapter that are given when it is made. -/
structure SameSetup (first second : Adapter) : Prop where
  endpoint_eq : first.endpoint = second.endpoint
  registry_eq : first.registry = second.registry
  attempts_eq : first.attempts = second.attempts
  override_eq : first.override = second.override

omit [Runtime] in
theorem SameSetup.symm {first second : Adapter} (h : SameSetup first second) :
    SameSetup second first :=
  ⟨h.endpoint_eq.symm, h.registry_eq.symm, h.attempts_eq.symm, h.override_eq.symm⟩

omit [Runtime] in
theorem SameSetup.trans {first second third : Adapter} (h : SameSetup first second)
    (h' : SameSetup second third) : SameSetup first third :=
  ⟨h.endpoint_eq.trans h'.endpoint_eq, h.registry_eq.trans h'.registry_eq,
    h.attempts_eq.trans h'.attempts_eq, h.override_eq.trans h'.override_eq⟩

omit [Runtime] in
theorem sameSetup_connect (adapter : Adapter) (replies : List Http.Reply) :
    SameSetup (adapter.connect replies).1 adapter := by
  rcases connect_cases adapter replies with
    ⟨error, -, heq⟩ | ⟨authorization, -, ⟨-, hstate⟩ | ⟨-, hstate⟩⟩
  · rw [heq]
    exact ⟨rfl, rfl, rfl, rfl⟩
  · rw [hstate]
    exact ⟨rfl, rfl, rfl, rfl⟩
  · rw [hstate]
    exact ⟨rfl, rfl, rfl, rfl⟩

theorem sameSetup_perform (adapter : Adapter) (action : Action) :
    SameSetup (adapter.perform action).1 adapter := by
  cases action with
  | connect replies => exact sameSetup_connect adapter replies
  | verify replies => exact sameSetup_connect adapter replies
  | setProperties values => exact ⟨rfl, rfl, rfl, rfl⟩
  | listProperties => exact ⟨rfl, rfl, rfl, rfl⟩
  | operate operation request replies => exact ⟨rfl, rfl, rfl, rfl⟩

omit [Runtime] in
theorem properties_connect (adapter : Adapter) (replies : List Http.Reply) :
    (adapter.connect replies).1.properties = adapter.properties := by
  rcases connect_cases adapter replies with
    ⟨error, -, heq⟩ | ⟨authorization, -, ⟨-, hstate⟩ | ⟨-, hstate⟩⟩
  · rw [heq]
  · rw [hstate]
  · rw [hstate]

/-- The properties hold the two values of the credentials after every step. -/
theorem properties_perform {adapter : Adapter} {username password : Option CodeString}
    (h : adapter.properties = .holding username password) (action : Action) :
    ∃ username' password',
      (adapter.perform action).1.properties = .holding username' password' := by
  cases action with
  | connect replies => exact ⟨username, password, (properties_connect adapter replies).trans h⟩
  | verify replies => exact ⟨username, password, (properties_connect adapter replies).trans h⟩
  | setProperties values =>
      exact ⟨_, _, (congrArg (·.setValues values) h).trans
        (PropertyMap.setValues_holding username password values)⟩
  | listProperties => exact ⟨username, password, h⟩
  | operate operation request replies => exact ⟨username, password, h⟩

/-! ## Runs -/

theorem after_append (start : Adapter) (first second : List Action) :
    start.after (first ++ second) = (start.after first).after second :=
  List.foldl_append

theorem after_concat (start : Adapter) (actions : List Action) (action : Action) :
    start.after (actions ++ [action]) = ((start.after actions).perform action).1 :=
  after_append start actions [action]

theorem sameSetup_after (start : Adapter) (actions : List Action) :
    SameSetup (start.after actions) start := by
  induction actions using List.reverseRecOn with
  | nil => exact ⟨rfl, rfl, rfl, rfl⟩
  | append_singleton actions action ih =>
      rw [after_concat]
      exact (sameSetup_perform _ action).trans ih

theorem properties_after (endpoint : String) (registry : Registry) (attempts : Int)
    (override : Option Credentials) (actions : List Action) :
    ∃ username password,
      ((make endpoint registry attempts override).after actions).properties =
        .holding username password := by
  induction actions using List.reverseRecOn with
  | nil => exact ⟨none, none, PropertyMap.credentials_eq_holding⟩
  | append_singleton actions action ih =>
      obtain ⟨username, password, h⟩ := ih
      rw [after_concat]
      exact properties_perform h action

end QueryBridge.Bridge.Adapter
