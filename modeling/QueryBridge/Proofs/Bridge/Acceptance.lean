import Mathlib.Data.List.DropRight
import QueryBridge.Proofs.Bridge.Operation
import QueryBridge.Proofs.Bridge.Run
import QueryBridge.Runtime.Standard

/-!
# The credentials in use

The client of an adapter is that of its last accepted connection.  It keeps the values that
the credentials had then: neither new values nor any number of failed connections change
it, and every attempt of an operation begins with a request that carries them.
-/

namespace QueryBridge.Bridge.Adapter

open QueryBridge.Service (Call Client)

/-- Whether some connection among the actions succeeds. -/
def acceptsAny [Runtime] (adapter : Adapter) : List Action → Bool
  | [] => false
  | action :: actions => adapter.accepts action || (adapter.perform action).1.acceptsAny actions

/-! ## Readiness -/

theorem isReady_perform [Runtime] (adapter : Adapter) (action : Action) :
    (adapter.perform action).1.isReady = (adapter.isReady || adapter.accepts action) := by
  unfold isReady
  cases haccepts : adapter.accepts action with
  | true =>
      obtain ⟨authorization, -, hstate⟩ := perform_of_accepts haccepts
      rw [hstate]
      simp
  | false =>
      rw [client_perform_of_not_accepts haccepts]
      simp

/-- An adapter is ready if it was before or some connection has succeeded since. -/
theorem isReady_after [Runtime] (start : Adapter) (actions : List Action) :
    (start.after actions).isReady = (start.isReady || start.acceptsAny actions) := by
  induction actions generalizing start with
  | nil => simp [after, acceptsAny]
  | cons action actions ih =>
      rw [show start.after (action :: actions) = (start.perform action).1.after actions from rfl,
        ih, isReady_perform, acceptsAny, Bool.or_assoc]

theorem isReady_after_append [Runtime] {start : Adapter} {actions : List Action}
    (h : (start.after actions).isReady = true) (more : List Action) :
    (start.after (actions ++ more)).isReady = true := by
  rw [after_append, isReady_after, h]
  rfl

/-! ## The client -/

theorem client_after_of_not_acceptsAny [Runtime] {start : Adapter} {actions : List Action}
    (h : start.acceptsAny actions = false) : (start.after actions).client = start.client := by
  induction actions generalizing start with
  | nil => rfl
  | cons action actions ih =>
      simp only [acceptsAny, Bool.or_eq_false_iff] at h
      calc (start.after (action :: actions)).client
          = ((start.perform action).1.after actions).client := rfl
        _ = (start.perform action).1.client := ih h.2
        _ = start.client := client_perform_of_not_accepts h.1

/-- The root of a client is the endpoint of its adapter, which has no slashes at its end. -/
theorem dropEndSlashes_dropEndSlashes (endpoint : String) :
    Text.dropEndSlashes (Text.dropEndSlashes endpoint) = Text.dropEndSlashes endpoint := by
  unfold Text.dropEndSlashes Text.dropEndWhile
  rw [String.toList_ofList, List.reverse_reverse, List.dropWhile_idempotent]

/-- The client in use has the endpoint of the adapter, and makes at least one attempt. -/
theorem exists_client_after [Runtime] {endpoint : String} {registry : Registry} {attempts : Int}
    {override : Option Credentials} {actions : List Action} {client : Client}
    (h : ((make endpoint registry attempts override).after actions).client = some client) :
    1 ≤ attempts ∧ client.baseUrl = Text.dropEndSlashes endpoint := by
  induction actions using List.reverseRecOn with
  | nil => cases h
  | append_singleton actions action ih =>
      rw [after_concat] at h
      have hsetup := sameSetup_after (make endpoint registry attempts override) actions
      generalize (make endpoint registry attempts override).after actions = adapter at h ih hsetup
      cases haccepts : adapter.accepts action with
      | true =>
          obtain ⟨authorization, -, hstate⟩ := perform_of_accepts haccepts
          rw [hstate] at h
          cases h
          have hattempts : 1 ≤ adapter.attempts := by
            cases action with
            | connect replies => exact one_le_attempts_of_accepts haccepts
            | verify replies =>
                rw [accepts_verify] at haccepts
                exact one_le_attempts_of_accepts haccepts
            | setProperties values => cases haccepts
            | listProperties => cases haccepts
            | operate operation request replies => cases haccepts
          refine ⟨?_, ?_⟩
          · rw [hsetup.attempts_eq] at hattempts
            exact hattempts
          · calc Text.dropEndSlashes adapter.endpoint
                = Text.dropEndSlashes (Text.dropEndSlashes endpoint) :=
                  congrArg Text.dropEndSlashes hsetup.endpoint_eq
              _ = Text.dropEndSlashes endpoint := dropEndSlashes_dropEndSlashes endpoint
      | false =>
          rw [client_perform_of_not_accepts haccepts] at h
          exact ih h

/-- What the last accepted connection made: a client with the values of that moment. -/
theorem client_after_of_last_accepts [Runtime] {endpoint : String} {registry : Registry}
    {attempts : Int}
    {before : List Action} {action : Action} {later : List Action}
    (haccepts : ((make endpoint registry attempts none).after before).accepts action = true)
    (hlater : ((make endpoint registry attempts none).after
      (before ++ [action])).acceptsAny later = false) :
    ∃ username password : String,
      ((make endpoint registry attempts none).after before).properties =
        .holding (some (.text username)) (some (.text password)) ∧
      ((make endpoint registry attempts none).after (before ++ action :: later)).client =
        some ⟨Text.dropEndSlashes endpoint, some (.basic username password), [],
          attempts.toNat⟩ := by
  generalize hstart : make endpoint registry attempts none = start at haccepts hlater ⊢
  have hsetup := sameSetup_after start before
  have hproperties := properties_after endpoint registry attempts none before
  rw [hstart] at hproperties
  obtain ⟨username, password, hproperties⟩ := hproperties
  obtain ⟨authorization, hauthorization, hstate⟩ := perform_of_accepts haccepts
  -- without an override the credentials are the two properties, as they are at this moment
  have hoverride : (start.after before).override = none := by
    rw [hsetup.override_eq, ← hstart]
    rfl
  obtain ⟨user, pass, ⟨rfl, -⟩, ⟨rfl, -⟩, rfl⟩ :=
    (authorization_eq_ok_iff hoverride hproperties).mp hauthorization
  refine ⟨user, pass, hproperties, ?_⟩
  -- no later connection is accepted, so the client is still the one made then
  rw [show before ++ action :: later = before ++ [action] ++ later by simp, after_append,
    client_after_of_not_acceptsAny hlater, after_concat, hstate]
  dsimp only [clientWith]
  rw [hsetup.endpoint_eq, hsetup.attempts_eq, ← hstart]
  dsimp only [make]
  rw [dropEndSlashes_dropEndSlashes]

/-! ## What operations send -/

/-- An adapter without an override is ready once a connection has succeeded, and operations
then send the values that the credentials had at the last one that did. -/
theorem operations_use_last_accepted_credentials [Runtime] (endpoint : String) (registry : Registry)
    (attempts : Int) (actions : List Action)
    (hroot : ∀ root, Url.parse (Text.dropEndSlashes endpoint).toList = .ok root →
      root.userinfo = []) :
    let start := make endpoint registry attempts none
    (start.after actions).isReady = start.acceptsAny actions ∧
    (∀ before action later, actions = before ++ action :: later →
      (start.after before).accepts action = true →
      (start.after (before ++ [action])).acceptsAny later = false →
      ∃ username password : String,
        (start.after before).properties.value? PropertyMap.usernameKey =
          some (.text username) ∧
        (start.after before).properties.value? PropertyMap.passwordKey =
          some (.text password) ∧
        ∀ operation request replies,
          ∀ attempt ∈ ((start.after actions).run operation request replies).attempts,
            ∃ sent, attempt.requests.head? = some sent ∧
              Http.Headers.values Authorization.headerName sent.headers =
                ["Basic " ++ Authorization.basicToken username password]) ∧
    (∀ more, (start.after actions).acceptsAny more = false →
      (start.after (actions ++ more)).client = (start.after actions).client) ∧
    ∀ more, (start.after actions).isReady = true →
      (start.after (actions ++ more)).isReady = true := by
  intro start
  refine ⟨isReady_after start actions, ?_, ?_, fun more h => isReady_after_append h more⟩
  · rintro before action later rfl haccepts hlater
    obtain ⟨username, password, hproperties, hclient⟩ :=
      client_after_of_last_accepts haccepts hlater
    refine ⟨username, password, ?_, ?_, ?_⟩
    · rw [hproperties, PropertyMap.value?_username_holding]
    · rw [hproperties, PropertyMap.value?_password_holding]
    · intro operation request replies attempt hattempt
      obtain ⟨client, resource, sent, hclient', hresource, hsent, hhead⟩ :=
        exists_request_of_mem_attempts_run hattempt
      rw [show (start.after (before ++ action :: later)).client = _ from hclient] at hclient'
      cases hclient'
      exact ⟨sent, hhead, Client.authorization_of_request hsent rfl rfl hroot hresource⟩
  · intro more hmore
    rw [after_append]
    exact client_after_of_not_acceptsAny hmore

/-- A password that is refused later does not replace the one that was accepted. -/
theorem refused_password_is_not_used :
    let start := make "http://h" .default 1 none
    let given := Action.setProperties
      [(PropertyMap.usernameKey, some "user"), (PropertyMap.passwordKey, some "first")]
    let accepted := Action.connect [.answer ⟨200, [], []⟩]
    let later := [.setProperties [(PropertyMap.passwordKey, some "second")],
      .connect [.answer ⟨401, [], []⟩]]
    let state := start.after ([given] ++ accepted :: later)
    state.isReady = true ∧
    ∀ attempt ∈ (state.run .search ⟨"FirstStructure", "", [], []⟩ []).attempts,
      ∃ sent, attempt.requests.head? = some sent ∧
        Http.Headers.values Authorization.headerName sent.headers =
          ["Basic " ++ Authorization.basicToken "user" "first"] := by
  intro start given accepted later state
  have hroot : ∀ root, Url.parse (Text.dropEndSlashes "http://h").toList = .ok root →
      root.userinfo = [] := by
    intro root hparse
    have hurl : Url.parse (Text.dropEndSlashes "http://h").toList =
        .ok ⟨"http".toList, [], "h".toList, none, [], none, none⟩ := by decide +kernel
    rw [hurl] at hparse
    cases hparse
    rfl
  obtain ⟨hready, hsent, -⟩ := operations_use_last_accepted_credentials "http://h" .default 1
    ([given] ++ accepted :: later) hroot
  refine ⟨hready.trans (by decide +kernel), ?_⟩
  obtain ⟨username, password, husername, hpassword, hattempts⟩ :=
    hsent [given] accepted later rfl (by decide +kernel) (by decide +kernel)
  have huser : (start.after [given]).properties.value? PropertyMap.usernameKey =
      some "user" := by decide +kernel
  have hpass : (start.after [given]).properties.value? PropertyMap.passwordKey =
      some "first" := by decide +kernel
  cases husername.symm.trans huser
  cases hpassword.symm.trans hpass
  exact hattempts .search ⟨"FirstStructure", "", [], []⟩ []

end QueryBridge.Bridge.Adapter
