import QueryBridge.Bridge.Run
import QueryBridge.Proofs.Service.Call

/-!
# What a connection changes

A connection reads the credentials, adds their secrets to the redactor, and, if it
succeeds, puts the client with these credentials in the place of the old one.  Nothing
else of the adapter changes, and a connection that fails keeps the client.
-/

namespace QueryBridge.Bridge.Adapter

open QueryBridge.Service (Call Client)

/-- The client of a connection with the given credentials. -/
def clientWith (adapter : Adapter) (authorization : Authorization) : Client :=
  ⟨Text.dropEndSlashes adapter.endpoint, some authorization, [], adapter.attempts.toNat⟩

theorem make_eq (adapter : Adapter) (authorization : Authorization) :
    Client.make adapter.endpoint (some authorization) [] adapter.attempts =
      if adapter.attempts < 1 then .error .noAttempts
      else .ok (adapter.clientWith authorization) := rfl

theorem eq_clientWith_of_connectWith {adapter : Adapter} {authorization : Authorization}
    {replies : List Http.Reply} {client : Client}
    (h : (adapter.connectWith authorization replies).outcome = .ok client) :
    client = adapter.clientWith authorization := by
  unfold connectWith at h
  rw [make_eq] at h
  by_cases hattempts : adapter.attempts < 1
  · rw [if_pos hattempts] at h
    cases h
  · rw [if_neg hattempts] at h
    dsimp only [Call.outcome_andThen, Except.bind] at h
    split at h
    · cases h
    · cases h
      rfl

/-- Without credentials a connection ends before anything is sent. -/
theorem connect_of_authorization_error {adapter : Adapter} {failure : Failure}
    (h : adapter.authorization = .error failure) (replies : List Http.Reply) :
    adapter.connect replies = (adapter, Call.silent (.error failure) replies) := by
  unfold connect
  rw [h]

/-- A connection fails and keeps the client, or succeeds and replaces it. -/
theorem connect_cases (adapter : Adapter) (replies : List Http.Reply) :
    (∃ failure, adapter.authorization = .error failure ∧
      adapter.connect replies = (adapter, Call.silent (.error failure) replies)) ∨
    ∃ authorization, adapter.authorization = .ok authorization ∧
      let informed := { adapter with redactor := adapter.redactor.add authorization.secrets }
      ((∃ failure, (adapter.connect replies).2.outcome = .error failure) ∧
        (adapter.connect replies).1 = informed) ∨
      ((adapter.connect replies).2.outcome = .ok () ∧
        (adapter.connect replies).1 =
          { informed with client := some (adapter.clientWith authorization) }) := by
  cases hauthorization : adapter.authorization with
  | error failure =>
      exact Or.inl ⟨failure, rfl, connect_of_authorization_error hauthorization replies⟩
  | ok authorization =>
      refine Or.inr ⟨authorization, rfl, ?_⟩
      unfold connect
      rw [hauthorization]
      dsimp only
      -- the secrets are added before the connection is tried, and stay whatever it gives
      generalize hinformed :
        ({ adapter with redactor := adapter.redactor.add authorization.secrets } : Adapter) =
          informed
      cases houtcome : (informed.connectWith authorization replies).outcome with
      | error failure =>
          left
          simp [houtcome, Except.bind]
      | ok client =>
          right
          have hclient := eq_clientWith_of_connectWith houtcome
          subst hinformed
          simp [houtcome, Except.bind, hclient, clientWith]

theorem accepts_connect (adapter : Adapter) (replies : List Http.Reply) :
    adapter.accepts (.connect replies) = (adapter.connect replies).2.outcome.isOk := rfl

/-- An accepted connection replaces the client and informs the redactor. -/
theorem connect_of_accepts {adapter : Adapter} {replies : List Http.Reply}
    (h : adapter.accepts (.connect replies) = true) :
    ∃ authorization, adapter.authorization = .ok authorization ∧
      (adapter.connect replies).1 =
        { adapter with
          redactor := adapter.redactor.add authorization.secrets
          client := some (adapter.clientWith authorization) } := by
  rw [accepts_connect] at h
  rcases connect_cases adapter replies with
    ⟨error, -, heq⟩ | ⟨authorization, hauthorization, ⟨⟨failure, hfailure⟩, -⟩ | ⟨-, hstate⟩⟩
  · rw [heq] at h
    cases h
  · rw [hfailure] at h
    cases h
  · exact ⟨authorization, hauthorization, hstate⟩

/-- Without an attempt no connection is accepted. -/
theorem one_le_attempts_of_accepts {adapter : Adapter} {replies : List Http.Reply}
    (h : adapter.accepts (.connect replies) = true) : 1 ≤ adapter.attempts := by
  rw [accepts_connect] at h
  unfold connect at h
  cases hauthorization : adapter.authorization with
  | error error =>
      rw [hauthorization] at h
      cases h
  | ok authorization =>
      rw [hauthorization] at h
      dsimp only at h
      unfold connectWith at h
      rw [make_eq] at h
      by_cases hattempts : adapter.attempts < 1
      · rw [if_pos hattempts] at h
        cases h
      · omega

theorem client_connect_of_not_accepts {adapter : Adapter} {replies : List Http.Reply}
    (h : adapter.accepts (.connect replies) = false) :
    (adapter.connect replies).1.client = adapter.client := by
  rw [accepts_connect] at h
  rcases connect_cases adapter replies with
    ⟨error, -, heq⟩ | ⟨authorization, -, ⟨-, hstate⟩ | ⟨hok, -⟩⟩
  · rw [heq]
  · rw [hstate]
  · rw [hok] at h
    cases h

/-! ## Verification -/

/-- A verification is accepted exactly if the connection is. -/
theorem accepts_verify (adapter : Adapter) (replies : List Http.Reply) :
    adapter.accepts (.verify replies) = adapter.accepts (.connect replies) := by
  unfold accepts verify
  dsimp only
  cases (adapter.connect replies).2.outcome with
  | ok result => rfl
  | error failure => cases failure <;> rfl

end QueryBridge.Bridge.Adapter
