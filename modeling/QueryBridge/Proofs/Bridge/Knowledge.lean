import QueryBridge.Proofs.Bridge.Masking
import QueryBridge.Proofs.Bridge.Operation
import QueryBridge.Proofs.Bridge.Run
import QueryBridge.Proofs.Lists
import QueryBridge.Runtime.Standard

/-!
# What the redactor knows

A connection tells its secrets to the redactor before it sends anything, and whatever becomes of
it the redactor keeps them.  So the redactor knows the secrets of every connection that had
credentials, and no others; among them are those of the client that sends a request.
-/

namespace QueryBridge.Bridge.Adapter

open QueryBridge.Service (Call Client)

variable {adapter : Adapter} {action : Action}

/-! ## What an action sends -/

/-- The adapter at the time when an action begins to send. -/
def informed (adapter : Adapter) (action : Action) : Adapter :=
  { adapter with redactor := adapter.redactor.add (adapter.learnedSecrets action) }

/-- The attempts of an action, made by the adapter as it stands. -/
def attemptsOf [Runtime] (adapter : Adapter) : Action → List Http.Attempt
  | .connect replies | .verify replies =>
      match adapter.authorization with
      | .error _ => []
      | .ok authorization => (adapter.connectWith authorization replies).attempts
  | .operate operation request replies => (adapter.run operation request replies).attempts
  | .setProperties _ | .listProperties => []

/-- The client that makes the requests of an action. -/
def clientOf (adapter : Adapter) : Action → Option Client
  | .connect _ | .verify _ =>
      match adapter.authorization with
      | .error _ => none
      | .ok authorization => some (adapter.clientWith authorization)
  | .operate .. => adapter.client
  | .setProperties _ | .listProperties => none

theorem clientOf_informed_operate (adapter : Adapter) (operation : Operation) (request : Request)
    (replies : List Http.Reply) :
    (adapter.informed (.operate operation request replies)).clientOf
      (.operate operation request replies) = adapter.client := rfl

theorem authorization_informed (adapter : Adapter) (action : Action) :
    (adapter.informed action).authorization = adapter.authorization := rfl

/-- The redactor is informed first. -/
theorem attempts_perform [Runtime] (adapter : Adapter) (action : Action) :
    (adapter.perform action).2.attempts = (adapter.informed action).attemptsOf action := by
  have hconnect : ∀ replies, (adapter.connect replies).2.attempts =
      (adapter.informed (.connect replies)).attemptsOf (.connect replies) := by
    intro replies
    unfold attemptsOf
    rw [authorization_informed]
    cases hauthorization : adapter.authorization with
    | error error =>
        rw [connect_of_authorization_error hauthorization]
        rfl
    | ok authorization =>
        unfold connect informed learnedSecrets
        rw [hauthorization]
        rfl
  cases action with
  | connect replies => exact hconnect replies
  | verify replies => exact hconnect replies
  | setProperties values => rfl
  | listProperties => rfl
  | operate operation request replies => rfl

theorem mem_attempts_connectWith {authorization : Authorization} {replies : List Http.Reply}
    {attempt : Http.Attempt}
    (h : attempt ∈ (adapter.connectWith authorization replies).attempts) :
    ∃ resource first, (adapter.clientWith authorization).request resource = .ok first ∧
      attempt.requests.head? = some first := by
  unfold connectWith at h
  rw [make_eq] at h
  split at h
  · exact absurd h List.not_mem_nil
  · next client hmade =>
    obtain rfl : adapter.clientWith authorization = client := by
      split at hmade
      · cases hmade
      · exact Except.ok.inj hmade
    simp only [Call.attempts_andThen, Call.attempts_log, Client.checkCredentials] at h
    obtain ⟨first, hfirst, hhead⟩ := Client.exists_request_of_mem_attempts_fetch h
    exact ⟨_, first, hfirst, hhead⟩

/-- Every attempt of an action begins with a request of its client. -/
theorem exists_client_of_mem_attemptsOf [Runtime] {attempt : Http.Attempt}
    (h : attempt ∈ adapter.attemptsOf action) :
    ∃ client resource first, adapter.clientOf action = some client ∧
      client.request resource = .ok first ∧ attempt.requests.head? = some first := by
  have hconnect : ∀ replies, attempt ∈ adapter.attemptsOf (.connect replies) →
      ∃ client resource first, adapter.clientOf (.connect replies) = some client ∧
        client.request resource = .ok first ∧ attempt.requests.head? = some first := by
    intro replies h
    unfold attemptsOf at h
    unfold clientOf
    cases hauthorization : adapter.authorization with
    | error error =>
        rw [hauthorization] at h
        exact absurd h List.not_mem_nil
    | ok authorization =>
        rw [hauthorization] at h
        obtain ⟨resource, first, hfirst, hhead⟩ := mem_attempts_connectWith h
        exact ⟨_, resource, first, rfl, hfirst, hhead⟩
  cases action with
  | connect replies => exact hconnect replies h
  | verify replies => exact hconnect replies h
  | setProperties values => exact absurd h List.not_mem_nil
  | listProperties => exact absurd h List.not_mem_nil
  | operate operation request replies =>
      obtain ⟨client, resource, first, hclient, -, hfirst, hhead⟩ :=
        exists_request_of_mem_attempts_run h
      exact ⟨client, resource, first, hclient, hfirst, hhead⟩

/-! ## What the redactor knows of a client -/

/-- The client has credentials whose secrets the redactor holds, unless they are too short. -/
def IsKnown (redactor : Log.Redactor) (client : Client) : Prop :=
  ∃ authorization, client.authorization = some authorization ∧
    ∀ secret ∈ authorization.secrets, Log.Redactor.minLength ≤ secret.length →
      secret ∈ redactor.secrets

theorem IsKnown.add {redactor : Log.Redactor} {client : Client} (h : IsKnown redactor client)
    (secrets : List CodeString) : IsKnown (redactor.add secrets) client := by
  obtain ⟨authorization, hauthorization, hsecrets⟩ := h
  refine ⟨authorization, hauthorization, fun secret hsecret hlong => ?_⟩
  exact Log.Redactor.subset_secrets_add redactor secrets (hsecrets secret hsecret hlong)

theorem isKnown_clientWith (adapter : Adapter) (authorization : Authorization) :
    IsKnown (adapter.redactor.add authorization.secrets) (adapter.clientWith authorization) := by
  refine ⟨authorization, rfl, fun secret hsecret hlong => ?_⟩
  exact Log.Redactor.mem_secrets_add.mpr (Or.inr ⟨hsecret, hlong⟩)

/-- An action keeps the client in use known. -/
theorem isKnown_perform [Runtime]
    (h : ∀ client, adapter.client = some client → IsKnown adapter.redactor client)
    (action : Action) (client : Client)
    (hclient : (adapter.perform action).1.client = some client) :
    IsKnown (adapter.perform action).1.redactor client := by
  cases haccepts : adapter.accepts action with
  | true =>
      obtain ⟨authorization, -, hstate⟩ := perform_of_accepts haccepts
      rw [hstate] at hclient ⊢
      cases hclient
      exact isKnown_clientWith adapter authorization
  | false =>
      rw [client_perform_of_not_accepts haccepts] at hclient
      rw [redactor_perform]
      exact (h client hclient).add _

theorem isKnown_after [Runtime] (endpoint : String) (registry : Registry) (attempts : Int)
    (override : Option Credentials) (actions : List Action) :
    let adapter := (make endpoint registry attempts override).after actions
    ∀ client, adapter.client = some client → IsKnown adapter.redactor client := by
  induction actions using List.reverseRecOn with
  | nil =>
      intro adapter client hclient
      cases hclient
  | append_singleton actions action ih =>
      dsimp only at ih ⊢
      rw [after_concat]
      exact isKnown_perform ih action

/-- Whoever makes the requests of an action is known when they are made. -/
theorem isKnown_clientOf
    (h : ∀ client, adapter.client = some client → IsKnown adapter.redactor client)
    {client : Client} (hclient : (adapter.informed action).clientOf action = some client) :
    IsKnown (adapter.informed action).redactor client := by
  have hconnect : ∀ replies,
      (adapter.informed (.connect replies)).clientOf (.connect replies) = some client →
        IsKnown (adapter.informed (.connect replies)).redactor client := by
    intro replies hclient
    unfold clientOf at hclient
    rw [authorization_informed] at hclient
    cases hauthorization : adapter.authorization with
    | error error =>
        rw [hauthorization] at hclient
        cases hclient
    | ok authorization =>
        rw [hauthorization] at hclient
        cases hclient
        unfold informed learnedSecrets
        rw [hauthorization]
        exact isKnown_clientWith adapter authorization
  cases action with
  | connect replies => exact hconnect replies hclient
  | verify replies => exact hconnect replies hclient
  | setProperties values => cases hclient
  | listProperties => cases hclient
  | operate operation request replies =>
      rw [clientOf_informed_operate] at hclient
      exact h client hclient

/-! ## All that the redactor knows -/

theorem mem_learnedSecrets_iff {secret : CodeString} :
    secret ∈ adapter.learnedSecrets action ↔
      ∃ replies authorization, (action = .connect replies ∨ action = .verify replies) ∧
        adapter.authorization = .ok authorization ∧ secret ∈ authorization.secrets := by
  have hconnect : ∀ replies, secret ∈ adapter.learnedSecrets (.connect replies) ↔
      ∃ authorization, adapter.authorization = .ok authorization ∧
        secret ∈ authorization.secrets := by
    intro replies
    unfold learnedSecrets
    cases adapter.authorization <;> simp
  cases action with
  | connect replies => simpa using hconnect replies
  | verify replies =>
      have hverify : secret ∈ adapter.learnedSecrets (.verify replies) ↔ _ := hconnect replies
      simpa using hverify
  | setProperties values => simp [learnedSecrets]
  | listProperties => simp [learnedSecrets]
  | operate operation request replies => simp [learnedSecrets]

theorem mem_secrets_after_iff [Runtime] (endpoint : String) (registry : Registry) (attempts : Int)
    (override : Option Credentials) (actions : List Action) (secret : CodeString) :
    let start := make endpoint registry attempts override
    secret ∈ (start.after actions).redactor.secrets ↔
      ∃ before action later, actions = before ++ action :: later ∧
        secret ∈ (start.after before).learnedSecrets action ∧
        Log.Redactor.minLength ≤ secret.length := by
  intro start
  induction actions using List.reverseRecOn with
  | nil =>
      refine iff_of_false List.not_mem_nil ?_
      rintro ⟨before, action, later, hsplit, -⟩
      simp at hsplit
  | append_singleton actions action ih =>
      rw [after_concat, redactor_perform, Log.Redactor.mem_secrets_add, exists_split_concat_iff, ih,
        or_comm]

/-- Whatever an action sends, and whatever it records, it does with a redactor that knows the
credentials of its client, as far as they are long enough.  At any time the redactor holds what
is long enough of the credentials of all connections that had any which can be encoded, and nothing
else. -/
theorem redactor_knows_credentials_in_use [Runtime] (endpoint : String) (registry : Registry)
    (attempts : Int) (override : Option Credentials) (actions : List Action) :
    let start := make endpoint registry attempts override
    let adapter := start.after actions
    (∀ action,
      let informed := adapter.informed action
      (adapter.perform action).2.attempts = informed.attemptsOf action ∧
      (adapter.perform action).2.records =
        (adapter.unmaskedRecords action).map (Log.Record.redact informed.redactor) ∧
      ∀ attempt ∈ informed.attemptsOf action, ∃ client authorization resource first,
        informed.clientOf action = some client ∧ client.authorization = some authorization ∧
        client.request resource = .ok first ∧ attempt.requests.head? = some first ∧
        ∀ secret ∈ authorization.secrets, Log.Redactor.minLength ≤ secret.length →
          secret ∈ informed.redactor.secrets) ∧
    ∀ secret, secret ∈ adapter.redactor.secrets ↔
      Log.Redactor.minLength ≤ secret.length ∧ ∃ before later replies authorization,
        (actions = before ++ .connect replies :: later ∨
          actions = before ++ .verify replies :: later) ∧
        (start.after before).authorization = .ok authorization ∧
        secret ∈ authorization.secrets := by
  intro start adapter
  constructor
  · intro action informed
    refine ⟨attempts_perform adapter action, ?_, ?_⟩
    · rw [records_perform, redactor_perform]
      rfl
    · intro attempt hattempt
      obtain ⟨client, resource, first, hclient, hfirst, hhead⟩ :=
        exists_client_of_mem_attemptsOf hattempt
      obtain ⟨authorization, hauthorization, hsecrets⟩ :=
        isKnown_clientOf (isKnown_after endpoint registry attempts override actions) hclient
      exact ⟨client, authorization, resource, first, hclient, hauthorization, hfirst, hhead,
        hsecrets⟩
  · intro secret
    refine (mem_secrets_after_iff endpoint registry attempts override actions secret).trans ?_
    simp only [mem_learnedSecrets_iff]
    constructor
    · rintro ⟨before, _, later, hactions, ⟨replies, authorization, rfl | rfl, hauthorization,
        hsecret⟩, hlong⟩
      · exact ⟨hlong, before, later, replies, authorization, Or.inl hactions, hauthorization,
          hsecret⟩
      · exact ⟨hlong, before, later, replies, authorization, Or.inr hactions, hauthorization,
          hsecret⟩
    · rintro ⟨hlong, before, later, replies, authorization, hactions | hactions, hauthorization,
        hsecret⟩
      · exact ⟨before, _, later, hactions, ⟨replies, authorization, Or.inl rfl, hauthorization,
          hsecret⟩, hlong⟩
      · exact ⟨before, _, later, hactions, ⟨replies, authorization, Or.inr rfl, hauthorization,
          hsecret⟩, hlong⟩

/-- No property is missing, but a password with an unpaired surrogate cannot be encoded, and the
redactor is told nothing. -/
theorem broken_password_is_not_known :
    let password : CodeString := .ofCodes ("hunter".toList.map Char.toNat ++ [0xDCFF, 0x32])
    let adapter := (make "http://rest.example.com" .default 1 none).after
      [.setProperties [("Username", some "alice"), ("Password", some password)]]
    adapter.credentials = .ok (.basic "alice" password) ∧
      Log.Redactor.minLength ≤ password.length ∧
      (adapter.perform (.connect [])).1.redactor.secrets = [] := by
  intro password adapter
  exact ⟨rfl, by decide, by decide +kernel⟩

/-- Between a refusal and a missing connection credentials are accepted, and the adapter counts
with these.  The redactor knows them, and those that were refused; one password is too short. -/
theorem refused_secrets_are_known :
    let password := fun password =>
      Action.setProperties [("Username", some "user"), ("Password", some password)]
    let start := make "http://h" .default 1 none
    let adapter := start.after [password "refused", .verify [.answer ⟨401, [], []⟩],
      password "accepted", .connect [.answer ⟨200, [], []⟩],
      password "abc", .verify [.fault ⟨.connectError, ""⟩]]
    let count := Action.operate .count ⟨"FirstStructure", "a=b", [], []⟩ []
    (∃ attempt ∈ (adapter.perform count).2.attempts, ∃ resource first,
      (adapter.clientWith (.basic "user" "accepted")).request resource = .ok first ∧
        attempt.requests.head? = some first) ∧
    CodeString.text "accepted" ∈ (adapter.informed count).redactor.secrets ∧
    CodeString.text "refused" ∈ adapter.redactor.secrets ∧
    CodeString.text "abc" ∉ adapter.redactor.secrets := by
  intro password start adapter count
  have hlength : (adapter.perform count).2.attempts.length = 1 := by decide +kernel
  have haccepted : adapter.client = some (adapter.clientWith (.basic "user" "accepted")) := by
    decide +kernel
  have hrefused : (start.after [password "refused"]).authorization =
      .ok (.basic "user" "refused") := rfl
  have hmain := redactor_knows_credentials_in_use "http://h" .default 1 none
    [password "refused", .verify [.answer ⟨401, [], []⟩],
      password "accepted", .connect [.answer ⟨200, [], []⟩],
      password "abc", .verify [.fault ⟨.connectError, ""⟩]]
  dsimp only at hmain
  rw [show (make "http://h" .default 1 none).after _ = adapter from rfl] at hmain
  -- what has been computed of the run is enough
  clear_value adapter
  obtain ⟨hsends, hknows⟩ := hmain
  obtain ⟨attempt, hattempt⟩ := List.exists_mem_of_length_pos (hlength ▸ Nat.one_pos)
  obtain ⟨hattempts, -, hfrom⟩ := hsends count
  obtain ⟨client, authorization, resource, first, hclient, hauthorization, hfirst, hhead,
    hsecrets⟩ := hfrom attempt (hattempts ▸ hattempt)
  -- the client of the accepted connection is still in use
  rw [clientOf_informed_operate, haccepted] at hclient
  have hused : client = adapter.clientWith (.basic "user" "accepted") :=
    (Option.some.inj hclient).symm
  rw [hused] at hfirst hauthorization
  have hbasic : authorization = .basic "user" "accepted" := (Option.some.inj hauthorization).symm
  rw [hbasic] at hsecrets
  refine ⟨⟨attempt, hattempt, resource, first, hfirst, hhead⟩, ?_, ?_, ?_⟩
  · exact hsecrets "accepted" (by decide) (by decide)
  · apply (hknows "refused").mpr
    exact ⟨by decide, _, _, _, _, Or.inr rfl, hrefused, by decide⟩
  · intro hshort
    exact absurd ((hknows "abc").mp hshort).1 (by decide)

end QueryBridge.Bridge.Adapter
