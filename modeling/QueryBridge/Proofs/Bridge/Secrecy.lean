import QueryBridge.Proofs.Bridge.Twins
import QueryBridge.Runtime.Standard

/-!
# Runs that differ in the password

An action keeps twins twins, and what can be observed of it is the same for both.  So two runs
that are given different passwords cannot be told apart by what they return and send, but for
the values of authorization headers; nor by their records, as long as no secret occurs in the
texts of which these are made.
-/

namespace QueryBridge.Bridge.Adapter

open QueryBridge.Service (Call Client)
open PropertyMap (holding usernameKey passwordKey)

variable {first second : Adapter}

/-! ## Connecting -/

theorem client_connect {adapter : Adapter} {authorization : Authorization}
    (h : adapter.authorization = .ok authorization) (replies : List Http.Reply) :
    (adapter.connect replies).1.client =
      if (adapter.connect replies).2.outcome.isOk then some (adapter.clientWith authorization)
      else adapter.client := by
  rw [← accepts_connect]
  cases haccepts : adapter.accepts (.connect replies) with
  | true =>
      obtain ⟨used, hused, hstate⟩ := connect_of_accepts haccepts
      cases h.symm.trans hused
      rw [hstate, if_pos rfl]
  | false => rw [client_connect_of_not_accepts haccepts, if_neg Bool.false_ne_true]

/-- The call of a connection with its records before they are masked. -/
def plainConnect [Runtime] (adapter : Adapter) (replies : List Http.Reply) : Call Unit :=
  { (adapter.connect replies).2 with records := adapter.unmaskedRecords (.connect replies) }

theorem plainConnect_of_authorization [Runtime] {adapter : Adapter} {authorization : Authorization}
    (h : adapter.authorization = .ok authorization) (replies : List Http.Reply) :
    adapter.plainConnect replies =
      (adapter.clearSecrets.connectWith authorization replies).andThen fun _ => .ok () := by
  unfold plainConnect unmaskedRecords
  rw [connect_eq_mask h, h]
  rfl

theorem Twins.conceal_plainConnect [Runtime] (h : Twins first second) (replies : List Http.Reply) :
    (first.plainConnect replies).conceal = (second.plainConnect replies).conceal := by
  rcases h.authorization with
    ⟨error, hfirst, hsecond⟩ | ⟨username, password, password', hfirst, hsecond⟩
  · unfold plainConnect unmaskedRecords
    rw [connect_of_authorization_error hfirst, connect_of_authorization_error hsecond,
      hfirst, hsecond]
  · rw [plainConnect_of_authorization hfirst, plainConnect_of_authorization hsecond]
    exact h.clearSecrets.conceal_connectWith rfl username password password' replies

theorem Twins.connect [Runtime] (h : Twins first second) (replies : List Http.Reply) :
    Twins (first.connect replies).1 (second.connect replies).1 := by
  have hsetup : SameSetup (first.connect replies).1 (second.connect replies).1 := by
    apply (sameSetup_connect first replies).trans
    exact h.setup.trans (sameSetup_connect second replies).symm
  refine ⟨hsetup, (sameSetup_connect first replies).override_eq.trans h.override_eq, ?_, ?_⟩
  · rw [properties_connect, properties_connect]
    exact h.properties
  · rcases h.authorization with
      ⟨error, hfirst, hsecond⟩ | ⟨username, password, password', hfirst, hsecond⟩
    · rw [connect_of_authorization_error hfirst, connect_of_authorization_error hsecond]
      exact h.clients
    · -- both are accepted or neither is, as the outcomes are the same
      have houtcome : (first.connect replies).2.outcome = (second.connect replies).2.outcome :=
        (Call.conceal_eq_iff.mp (h.conceal_plainConnect replies)).1
      rw [client_connect hfirst, client_connect hsecond, houtcome]
      split
      · refine Or.inr ⟨_, _, rfl, rfl, ?_⟩
        unfold clientWith
        rw [h.setup.endpoint_eq, h.setup.attempts_eq]
        exact ⟨_, _, _, _, _, rfl, rfl⟩
      · exact h.clients

/-! ## Actions -/

/-- The call of an action with its records before they are masked. -/
def plainCall [Runtime] (adapter : Adapter) (action : Action) : Call Returned :=
  { (adapter.perform action).2 with records := adapter.unmaskedRecords action }

theorem plainCall_operate [Runtime] (adapter : Adapter) (operation : Operation) (request : Request)
    (replies : List Http.Reply) :
    adapter.plainCall (.operate operation request replies) =
      adapter.clearSecrets.run operation request replies := by
  unfold plainCall perform unmaskedRecords
  dsimp only
  rw [run_eq_mask]
  rfl

theorem Twins.setProperties (h : Twins first second)
    {values values' : List (String × Option CodeString)}
    (hvalues : List.Forall₂ SameValue values values') :
    Twins (first.setProperties values) (second.setProperties values') := by
  obtain ⟨username, password, password', hfirst, hsecond, hfilling⟩ := h.properties
  refine ⟨⟨h.setup.endpoint_eq, h.setup.registry_eq, h.setup.attempts_eq, h.setup.override_eq⟩,
    h.override_eq, ⟨PropertyMap.assigned usernameKey username values, _, _, ?_, ?_,
      assigned_password hvalues hfilling⟩, h.clients⟩
  · calc (first.setProperties values).properties
        = (holding username password).setValues values := congrArg (·.setValues values) hfirst
      _ = _ := PropertyMap.setValues_holding username password values
  · rw [assigned_username hvalues]
    calc (second.setProperties values').properties
        = (holding username password').setValues values' :=
          congrArg (·.setValues values') hsecond
      _ = _ := PropertyMap.setValues_holding username password' values'

theorem forall₂_sameValue (values : List (String × Option CodeString)) :
    List.Forall₂ SameValue values values :=
  List.forall₂_same.mpr fun _ _ => ⟨rfl, Or.inl rfl, fun _ => rfl⟩

theorem Twins.conceal_verify [Runtime] (h : Twins first second) (replies : List Http.Reply) :
    (first.plainCall (.verify replies)).conceal = (second.plainCall (.verify replies)).conceal := by
  obtain ⟨houtcome, hattempts, hwaits, hrecords, hrest⟩ :=
    Call.conceal_eq_iff.mp (h.conceal_plainConnect replies)
  refine Call.conceal_eq_iff.mpr ⟨?_, hattempts, hwaits, hrecords, hrest⟩
  have houtcome' : (first.connect replies).2.outcome = (second.connect replies).2.outcome :=
    houtcome
  unfold plainCall Adapter.perform verify
  dsimp only [Call.outcome_andThen]
  rw [houtcome', h.setup.endpoint_eq, h.setup.registry_eq]

/-- An action keeps twins twins, and what it does but for credentials is the same. -/
theorem Twins.perform [Runtime] (h : Twins first second) {action action' : Action}
    (haction : SameAction action action') :
    Twins (first.perform action).1 (second.perform action').1 ∧
      (first.plainCall action).conceal = (second.plainCall action').conceal := by
  cases haction with
  | setProperties hvalues => exact ⟨h.setProperties hvalues, rfl⟩
  | same action =>
      cases action with
      | setProperties values => exact ⟨h.setProperties (forall₂_sameValue values), rfl⟩
      | listProperties =>
          refine ⟨h, Call.conceal_eq_iff.mpr ⟨?_, rfl, rfl, rfl, rfl⟩⟩
          unfold plainCall Adapter.perform
          dsimp only [Call.outcome_silent]
          rw [h.listings_eq]
      | connect replies =>
          have hcall := congrArg
            (fun call : Call Unit => call.andThen fun _ => Except.ok Returned.nothing)
            (h.conceal_plainConnect replies)
          exact ⟨h.connect replies, hcall⟩
      | verify replies => exact ⟨h.connect replies, h.conceal_verify replies⟩
      | operate operation request replies =>
          rw [plainCall_operate, plainCall_operate]
          exact ⟨h, h.clearSecrets.conceal_run rfl operation request replies⟩

/-! ## What can be observed -/

/-- What an action shows: what it returns, what it sends, where authorization headers are
concealed, and how the adapter describes itself after it. -/
structure Observation where
  outcome : Except Failure Returned
  requests : List Http.Request
  waits : List Nat
  rest : List Http.Reply
  isReady : Bool
  description : String
  listings : List Listing

def observe [Runtime] (adapter : Adapter) (action : Action) : Observation :=
  let done := adapter.perform action
  { outcome := done.2.outcome
    requests := done.2.requests.map Http.Request.conceal
    waits := done.2.waits
    rest := done.2.rest
    isReady := done.1.isReady
    description := done.1.describe
    listings := done.1.properties.listings }

/-- What the actions of a run show. -/
def observations [Runtime] (adapter : Adapter) : List Action → List Observation
  | [] => []
  | action :: actions =>
      adapter.observe action :: (adapter.perform action).1.observations actions

/-- The records of a run. -/
def log [Runtime] (adapter : Adapter) : List Action → List Log.Record
  | [] => []
  | action :: actions =>
      (adapter.perform action).2.records ++ (adapter.perform action).1.log actions

/-- The records of a run before they are masked. -/
def unmaskedLog [Runtime] (adapter : Adapter) : List Action → List Log.Record
  | [] => []
  | action :: actions =>
      adapter.unmaskedRecords action ++ (adapter.perform action).1.unmaskedLog actions

theorem Twins.observe_eq [Runtime] (h : Twins first second) {action action' : Action}
    (haction : SameAction action action') : first.observe action = second.observe action' := by
  obtain ⟨htwins, hcall⟩ := h.perform haction
  obtain ⟨houtcome, hattempts, hwaits, -, hrest⟩ := Call.conceal_eq_iff.mp hcall
  have houtcome' : (first.perform action).2.outcome = (second.perform action').2.outcome := houtcome
  have hrequests : (first.perform action).2.requests.map Http.Request.conceal =
      (second.perform action').2.requests.map Http.Request.conceal := by
    rw [Call.map_conceal_requests, Call.map_conceal_requests]
    exact congrArg _ hattempts
  have hwaits' : (first.perform action).2.waits = (second.perform action').2.waits := hwaits
  have hrest' : (first.perform action).2.rest = (second.perform action').2.rest := hrest
  unfold observe
  dsimp only
  rw [houtcome', hrequests, hwaits', hrest', htwins.isReady_eq, htwins.describe_eq,
    htwins.listings_eq]

theorem Twins.observations_eq [Runtime] (h : Twins first second) {actions actions' : List Action}
    (hactions : List.Forall₂ SameAction actions actions') :
    first.observations actions = second.observations actions' ∧
      first.unmaskedLog actions = second.unmaskedLog actions' := by
  induction hactions generalizing first second with
  | nil => exact ⟨rfl, rfl⟩
  | cons haction hactions ih =>
      obtain ⟨htwins, hcall⟩ := h.perform haction
      obtain ⟨hobservations, hlog⟩ := ih htwins
      have hrecords := (Call.conceal_eq_iff.mp hcall).2.2.2.1
      unfold observations unmaskedLog
      rw [h.observe_eq haction, hobservations, hlog]
      exact ⟨rfl, congrArg (· ++ _) hrecords⟩

/-! ## Records -/

theorem subset_secrets_perform [Runtime] (adapter : Adapter) (action : Action) :
    adapter.redactor.secrets ⊆ (adapter.perform action).1.redactor.secrets := by
  rw [redactor_perform]
  exact Log.Redactor.subset_secrets_add _ _

theorem subset_secrets_after [Runtime] (start : Adapter) (actions : List Action) :
    start.redactor.secrets ⊆ (start.after actions).redactor.secrets := by
  induction actions generalizing start with
  | nil => exact List.Subset.refl _
  | cons action actions ih =>
      exact List.Subset.trans (subset_secrets_perform start action) (ih _)

/-- Records that mention no secret of the run are not changed by the mask. -/
theorem log_eq_unmaskedLog [Runtime] (start : Adapter) (actions : List Action)
    (h : ∀ record ∈ start.unmaskedLog actions,
      ∀ secret ∈ (start.after actions).redactor.secrets, ¬ record.Mentions secret) :
    start.log actions = start.unmaskedLog actions := by
  induction actions generalizing start with
  | nil => rfl
  | cons action actions ih =>
      unfold log unmaskedLog
      unfold unmaskedLog at h
      -- the action is masked with secrets that the adapter still has at the end of the run
      have hlater := subset_secrets_after (start.perform action).1 actions
      have hrecords : (start.unmaskedRecords action).map
          (Log.Record.redact (start.perform action).1.redactor) = start.unmaskedRecords action := by
        refine (List.map_congr_left fun record hrecord => ?_).trans (List.map_id _)
        exact Log.Record.redact_of_not_mentions fun secret hsecret =>
          h record (List.mem_append_left _ hrecord) secret (hlater hsecret)
      rw [records_perform, hrecords, ih (start.perform action).1 fun record hrecord =>
        h record (List.mem_append_right _ hrecord)]

/-! ## Two runs -/

theorem twins_make (endpoint : String) (registry : Registry) (attempts : Int) :
    Twins (make endpoint registry attempts none) (make endpoint registry attempts none) :=
  ⟨⟨rfl, rfl, rfl, rfl⟩, rfl,
    ⟨none, none, none, PropertyMap.credentials_eq_holding, PropertyMap.credentials_eq_holding,
      Or.inl rfl⟩, Or.inl ⟨rfl, rfl⟩⟩

/-- Two runs that differ only in passwords which are texts show the same, and their records are the
same before they are masked; and also after it, unless a record mentions a secret. -/
theorem runs_hide_password [Runtime] (endpoint : String) (registry : Registry) (attempts : Int)
    (actions actions' : List Action) (hactions : List.Forall₂ SameAction actions actions') :
    let start := make endpoint registry attempts none
    start.observations actions = start.observations actions' ∧
    start.unmaskedLog actions = start.unmaskedLog actions' ∧
    (∀ (state : Adapter) action, (state.perform action).2.records =
      (state.unmaskedRecords action).map
        (Log.Record.redact (state.perform action).1.redactor)) ∧
    ((∀ record ∈ start.unmaskedLog actions ++ start.unmaskedLog actions',
        ∀ secret ∈ (start.after actions).redactor.secrets ++
            (start.after actions').redactor.secrets, ¬ record.Mentions secret) →
      start.log actions = start.log actions') := by
  intro start
  obtain ⟨hobservations, hlog⟩ :=
    (twins_make endpoint registry attempts).observations_eq hactions
  refine ⟨hobservations, hlog, records_perform, fun hmentions => ?_⟩
  have hfirst : start.log actions = start.unmaskedLog actions :=
    log_eq_unmaskedLog start actions fun record hrecord secret hsecret =>
      hmentions record (List.mem_append_left _ hrecord) secret (List.mem_append_left _ hsecret)
  have hsecond : start.log actions' = start.unmaskedLog actions' :=
    log_eq_unmaskedLog start actions' fun record hrecord secret hsecret =>
      hmentions record (List.mem_append_right _ hrecord) secret (List.mem_append_right _ hsecret)
  calc start.log actions = start.unmaskedLog actions := hfirst
    _ = start.unmaskedLog actions' := hlog
    _ = start.log actions' := hsecond.symm

/-- A password with an unpaired surrogate shows: it cannot be encoded, so no connection is made. -/
theorem broken_password_shows :
    let run := fun password : CodeString =>
      [Action.setProperties [(usernameKey, some "alice"), (passwordKey, some password)],
        .connect [.answer ⟨200, [], []⟩]]
    let start := make "http://rest.example.com" .default 1 none
    ¬ ∀ password password' : CodeString, password ≠ "" → password' ≠ "" →
      start.observations (run password) = start.observations (run password') := by
  intro run start h
  have hsame := h "hunter22" (.ofCodes ("hunter".toList.map Char.toNat ++ [0xDCFF, 0x32]))
    (by decide) (by decide)
  have hconnected := congrArg (·.map fun observation => observation.outcome.isOk) hsame
  revert hconnected
  decide +kernel

/-- Neither an accepted password nor a refused one shows in what a host sees. -/
theorem passwords_do_not_show :
    let run := fun password refused =>
      [Action.setProperties [(usernameKey, some "user"), (passwordKey, some password)],
        .connect [.answer ⟨200, [], []⟩],
        .setProperties [(passwordKey, some refused)], .verify [.answer ⟨401, [], []⟩]]
    let start := make "http://h" .default 1 none
    start.observations (run "hunter22" "swordfish") = start.observations (run "p" "q:r") ∧
      start.log (run "hunter22" "swordfish") = start.log (run "p" "q:r") := by
  intro run start
  have hactions : List.Forall₂ SameAction (run "hunter22" "swordfish") (run "p" "q:r") := by
    have husername : SameValue (usernameKey, some "user") (usernameKey, some "user") :=
      ⟨rfl, Or.inl rfl, fun _ => rfl⟩
    have hpassword : SameValue (passwordKey, some "hunter22") (passwordKey, some "p") :=
      ⟨rfl, Or.inr ⟨⟨_, rfl, by decide⟩, _, rfl, by decide⟩, fun hne => absurd rfl hne⟩
    have hrefused : SameValue (passwordKey, some "swordfish") (passwordKey, some "q:r") :=
      ⟨rfl, Or.inr ⟨⟨_, rfl, by decide⟩, _, rfl, by decide⟩, fun hne => absurd rfl hne⟩
    exact .cons (.setProperties (.cons husername (.cons hpassword .nil)))
      (.cons (.same _) (.cons (.setProperties (.cons hrefused .nil)) (.cons (.same _) .nil)))
  obtain ⟨hobservations, -, -, hlog⟩ :=
    runs_hide_password "http://h" .default 1 _ _ hactions
  refine ⟨hobservations, hlog ?_⟩
  have hsecrets : (start.after (run "hunter22" "swordfish")).redactor.secrets ++
      (start.after (run "p" "q:r")).redactor.secrets =
        ["hunter22", "dXNlcjpodW50ZXIyMg==", "swordfish", "dXNlcjpzd29yZGZpc2g=",
          "dXNlcjpw", "dXNlcjpxOnI="] := by decide +kernel
  rw [hsecrets]
  decide +kernel

end QueryBridge.Bridge.Adapter
