import Mathlib.Data.List.Forall2
import QueryBridge.Proofs.Bridge.Masking
import QueryBridge.Proofs.Bridge.Run

/-!
# Adapters that differ in the password

Two adapters are twins if they differ in the password only, in their properties and in their
clients.  Whatever a twin shows, the other shows, too: its listings, its description, and
with the same replies its calls, but for the values of authorization headers.
-/

namespace QueryBridge.Bridge.Adapter

open QueryBridge.Service (Call Client Journal)
open PropertyMap (holding usernameKey passwordKey assigned)

/-! ## Passwords -/

/-- The values are the same, or both are texts that are not empty. -/
def SameFilling (first second : Option CodeString) : Prop :=
  first = second ∨
    (∃ text : String, first = some (.text text) ∧ text ≠ "") ∧
      ∃ text : String, second = some (.text text) ∧ text ≠ ""

/-- The same values are given to the same name, but for the password. -/
def SameValue (first second : String × Option CodeString) : Prop :=
  first.1 = second.1 ∧ SameFilling first.2 second.2 ∧
    (first.1 ≠ passwordKey → first.2 = second.2)

/-- The actions are the same but for the passwords that they give. -/
inductive SameAction : Action → Action → Prop where
  | setProperties {values values' : List (String × Option CodeString)}
      (h : List.Forall₂ SameValue values values') :
      SameAction (.setProperties values) (.setProperties values')
  | same (action : Action) : SameAction action action

theorem assigned_password {values values' : List (String × Option CodeString)}
    (h : List.Forall₂ SameValue values values') {old old' : Option CodeString}
    (hold : SameFilling old old') :
    SameFilling (assigned passwordKey old values) (assigned passwordKey old' values') := by
  unfold assigned
  induction h generalizing old old' with
  | nil => exact hold
  | @cons pair pair' values values' hpair hvalues ih =>
      obtain ⟨hname, hfilling, -⟩ := hpair
      rw [List.foldl_cons, List.foldl_cons, ← hname]
      by_cases hpassword : pair.1 = passwordKey
      · rw [if_pos hpassword, if_pos hpassword]
        exact ih hfilling
      · rw [if_neg hpassword, if_neg hpassword]
        exact ih hold

theorem assigned_username {values values' : List (String × Option CodeString)}
    (h : List.Forall₂ SameValue values values') (old : Option CodeString) :
    assigned usernameKey old values = assigned usernameKey old values' := by
  unfold assigned
  induction h generalizing old with
  | nil => rfl
  | @cons pair pair' values values' hpair hvalues ih =>
      obtain ⟨hname, -, hvalue⟩ := hpair
      rw [List.foldl_cons, List.foldl_cons, ← hname]
      by_cases husername : pair.1 = usernameKey
      · rw [if_pos husername, if_pos husername, ih,
          hvalue (husername ▸ PropertyMap.usernameKey_ne_passwordKey)]
      · rw [if_neg husername, if_neg husername, ih]

theorem isFilled_text {text : String} (h : text ≠ "") :
    Property.isFilled ⟨passwordKey, true, true, some (.text text)⟩ = true :=
  (Property.isFilled_iff_hasText _).mpr ⟨text, rfl, mt CodeString.text.inj h⟩

theorem isFilled_congr {first second : Option CodeString} (h : SameFilling first second) :
    Property.isFilled ⟨passwordKey, true, true, first⟩ =
      Property.isFilled ⟨passwordKey, true, true, second⟩ := by
  rcases h with rfl | ⟨⟨text, rfl, hfirst⟩, other, rfl, hsecond⟩
  · rfl
  · rw [isFilled_text hfirst, isFilled_text hsecond]

theorem missing_congr (username : Option CodeString) {first second : Option CodeString}
    (h : SameFilling first second) :
    (holding username first).missing = (holding username second).missing := by
  rw [PropertyMap.missing_holding, PropertyMap.missing_holding, isFilled_congr h]

/-- Listings show of a password only whether there is one. -/
theorem listings_congr (username : Option CodeString) {first second : Option CodeString}
    (h : SameFilling first second) :
    (holding username first).listings = (holding username second).listings := by
  have hlisting : Property.listing ⟨passwordKey, true, true, first⟩ =
      Property.listing ⟨passwordKey, true, true, second⟩ := by
    unfold Property.listing Property.displayValue
    rcases h with rfl | ⟨⟨text, rfl, hfirst⟩, other, rfl, hsecond⟩
    · rfl
    · rw [isFilled_text hfirst, isFilled_text hsecond]
      rfl
  unfold PropertyMap.listings PropertyMap.properties holding
  simp only [List.map_cons, List.map_nil, hlisting]

/-! ## Twins -/

/-- The adapters differ in the password only. -/
structure Twins (first second : Adapter) : Prop where
  setup : SameSetup first second
  override_eq : first.override = none
  properties : ∃ username password password', first.properties = holding username password ∧
    second.properties = holding username password' ∧ SameFilling password password'
  clients : (first.client = none ∧ second.client = none) ∨
    ∃ client client', first.client = some client ∧ second.client = some client' ∧
      Client.SameButPassword client client'

variable {first second : Adapter}

theorem Twins.clearSecrets (h : Twins first second) :
    Twins first.clearSecrets second.clearSecrets :=
  ⟨⟨h.setup.endpoint_eq, h.setup.registry_eq, h.setup.attempts_eq, h.setup.override_eq⟩,
    h.override_eq, h.properties, h.clients⟩

/-- Whether credentials can be encoded does not depend on the password. -/
theorem authorization?_congr (user : CodeString) {password password' : Option CodeString}
    (h : SameFilling password password') :
    let first := (Credentials.basic user (password.getD "")).authorization?
    let second := (Credentials.basic user (password'.getD "")).authorization?
    (first = none ∧ second = none) ∨
      ∃ username password password', first = some (.basic username password) ∧
        second = some (.basic username password') := by
  cases user with
  | broken user => exact Or.inl ⟨rfl, rfl⟩
  | text user =>
      rcases h with rfl | ⟨⟨text, rfl, -⟩, other, rfl, -⟩
      · cases password.getD "" with
        | broken password => exact Or.inl ⟨rfl, rfl⟩
        | text password => exact Or.inr ⟨user, password, password, rfl, rfl⟩
      · exact Or.inr ⟨user, text, other, rfl, rfl⟩

/-- Twins present the same errors or credentials of the same user. -/
theorem Twins.authorization (h : Twins first second) :
    (∃ failure, first.authorization = .error failure ∧ second.authorization = .error failure) ∨
      ∃ username password password', first.authorization = .ok (.basic username password) ∧
        second.authorization = .ok (.basic username password') := by
  obtain ⟨username, password, password', hfirst, hsecond, hfilling⟩ := h.properties
  have hoverride : second.override = none := h.setup.override_eq.symm.trans h.override_eq
  unfold Adapter.authorization Adapter.credentials
  rw [h.override_eq, hoverride, hfirst, hsecond, ← missing_congr username hfilling]
  dsimp only
  by_cases hmissing : (holding username password).missing.isEmpty = true
  · rw [if_pos hmissing, if_pos hmissing]
    dsimp only
    rw [PropertyMap.value?_username_holding, PropertyMap.value?_username_holding,
      PropertyMap.value?_password_holding, PropertyMap.value?_password_holding]
    rcases authorization?_congr (username.getD "") hfilling with
      ⟨hnone, hnone'⟩ | ⟨user, pass, pass', hsome, hsome'⟩
    · rw [hnone, hnone']
      exact Or.inl ⟨.headerEncoding, rfl, rfl⟩
    · rw [hsome, hsome']
      exact Or.inr ⟨user, pass, pass', rfl, rfl⟩
  · rw [if_neg hmissing, if_neg hmissing]
    exact Or.inl ⟨_, rfl, rfl⟩

theorem Twins.isReady_eq (h : Twins first second) : first.isReady = second.isReady := by
  unfold isReady
  rcases h.clients with ⟨hfirst, hsecond⟩ | ⟨client, client', hfirst, hsecond, -⟩
  · rw [hfirst, hsecond]
  · rw [hfirst, hsecond]
    rfl

theorem Twins.describe_eq (h : Twins first second) : first.describe = second.describe := by
  unfold describe
  rw [h.setup.endpoint_eq, h.setup.registry_eq, h.isReady_eq]

theorem Twins.listings_eq (h : Twins first second) :
    first.properties.listings = second.properties.listings := by
  obtain ⟨username, password, password', hfirst, hsecond, hfilling⟩ := h.properties
  rw [hfirst, hsecond]
  exact listings_congr username hfilling

/-! ## Calls of twins -/

theorem journal_congr (h : first.redactor = second.redactor) : first.journal = second.journal := by
  unfold journal
  rw [h]

/-- What a call keeps of what it returned cannot be told from its concealed form. -/
theorem conceal_discard {α β : Type} {first second : Call α}
    (h : first.conceal = second.conceal) {keep keep' : α → Except Failure β}
    (hkeep : ∀ value, (keep value).bind (fun _ => Except.ok ()) =
      (keep' value).bind fun _ => Except.ok ()) (record : Log.Record) :
    (({ first.andThen keep with records := record :: first.records } : Call β).andThen
        fun _ => Except.ok ()).conceal =
      (({ second.andThen keep' with records := record :: second.records } : Call β).andThen
        fun _ => Except.ok ()).conceal := by
  obtain ⟨outcome, attempts, waits, records, rest⟩ := first
  obtain ⟨outcome', attempts', waits', records', rest'⟩ := second
  simp only [Call.conceal, Call.mk.injEq] at h
  obtain ⟨rfl, hattempts, rfl, rfl, rfl⟩ := h
  unfold Call.conceal Call.andThen
  dsimp only
  rw [hattempts]
  cases outcome with
  | error failure => rfl
  | ok value =>
      dsimp only [Except.bind] at hkeep ⊢
      rw [hkeep]

/-- A connection of twins, without the client that it returns. -/
theorem Twins.conceal_connectWith (h : Twins first second)
    (hredactor : first.redactor = second.redactor) (username password password' : String)
    (replies : List Http.Reply) :
    ((first.connectWith (.basic username password) replies).andThen fun _ =>
        Except.ok ()).conceal =
      ((second.connectWith (.basic username password') replies).andThen fun _ =>
        Except.ok ()).conceal := by
  have hjournal := journal_congr hredactor
  -- the clients that are tried differ in the password as the adapters do
  have hclients : Client.SameButPassword (first.clientWith (.basic username password))
      (second.clientWith (.basic username password')) := by
    unfold clientWith
    rw [h.setup.endpoint_eq, h.setup.attempts_eq]
    exact ⟨_, _, _, _, _, rfl, rfl⟩
  have hcall : ∀ record : Nat → Log.Record,
      ((((first.clientWith (.basic username password)).checkCredentials second.journal
        replies).andThen checkRefused).log record).conceal =
      ((((second.clientWith (.basic username password')).checkCredentials second.journal
        replies).andThen checkRefused).log record).conceal := by
    intro record
    unfold Client.checkCredentials
    rw [Call.conceal_log, Call.conceal_log, Call.conceal_andThen, Call.conceal_andThen,
      Call.conceal_andThen, Call.conceal_andThen, Client.conceal_fetch hclients]
  unfold connectWith
  rw [make_eq, make_eq, hjournal, h.setup.attempts_eq, h.setup.endpoint_eq]
  by_cases hattempts : second.attempts < 1
  · rw [if_pos hattempts, if_pos hattempts]
  · rw [if_neg hattempts, if_neg hattempts]
    refine conceal_discard (hcall _) ?_ _
    exact fun _ => rfl

/-- Twins prepare the same query, for clients that differ in the password. -/
theorem Twins.prepare (h : Twins first second) (hredactor : first.redactor = second.redactor)
    (request : Request) (operation : String) :
    (∃ error, first.prepare request operation = .error error ∧
      second.prepare request operation = .error error) ∨
    ∃ client client' query journal,
      first.prepare request operation = .ok ⟨client, query, journal⟩ ∧
      second.prepare request operation = .ok ⟨client', query, journal⟩ ∧
      Client.SameButPassword client client' := by
  have hjournal := journal_congr hredactor
  unfold Adapter.prepare
  rw [h.setup.registry_eq, hjournal]
  by_cases hstructure : (!second.registry.contains request.structureName) = true
  · rw [if_pos hstructure, if_pos hstructure]
    exact Or.inl ⟨_, rfl, rfl⟩
  · rw [if_neg hstructure, if_neg hstructure]
    rcases h.clients with ⟨hfirst, hsecond⟩ | ⟨client, client', hfirst, hsecond, hclients⟩
    · rw [hfirst, hsecond]
      exact Or.inl ⟨_, rfl, rfl⟩
    · rw [hfirst, hsecond]
      dsimp only
      cases Template.resolve request.query request.parameters with
      | error unbound => exact Or.inl ⟨_, rfl, rfl⟩
      | ok query => exact Or.inr ⟨client, client', query, _, rfl, rfl, hclients⟩

/-- Twins do the same in an operation if they do after its checks. -/
theorem Twins.conceal_operate {α : Type} (h : Twins first second)
    (hredactor : first.redactor = second.redactor) (request : Request) (operation : String)
    (replies : List Http.Reply) {run run' : Prepared → List Http.Reply → Call α}
    (hrun : ∀ client client' query journal, Client.SameButPassword client client' →
      (run ⟨client, query, journal⟩ replies).conceal =
        (run' ⟨client', query, journal⟩ replies).conceal) :
    (first.operate request operation replies run).conceal =
      (second.operate request operation replies run').conceal := by
  unfold operate
  rcases h.prepare hredactor request operation with
    ⟨error, hfirst, hsecond⟩ | ⟨client, client', query, journal, hfirst, hsecond, hclients⟩
  · rw [hfirst, hsecond]
  · rw [hfirst, hsecond]
    have hcall := hrun client client' query journal hclients
    exact congrArg (fun call : Call α => { call with
      records := journal.record Log.Level.debug "Resolved query" [("query", .text query)] ::
        call.records }) hcall

theorem Twins.conceal_run [Runtime] (h : Twins first second)
    (hredactor : first.redactor = second.redactor)
    (operation : Operation) (request : Request) (replies : List Http.Reply) :
    (first.run operation request replies).conceal =
      (second.run operation request replies).conceal := by
  have hjournal := journal_congr hredactor
  cases operation with
  | count =>
      unfold run count
      dsimp only
      rw [Call.conceal_andThen, Call.conceal_andThen, hjournal,
        h.conceal_operate hredactor request "count" replies]
      intro client client' query journal hclients
      unfold Client.fetchCount
      dsimp only
      rw [Call.conceal_andThen, Call.conceal_andThen, Call.conceal_log, Call.conceal_log,
        Call.conceal_andThen, Call.conceal_andThen, Client.conceal_fetch hclients]
  | retrieve =>
      unfold run retrieve
      dsimp only
      rw [Call.conceal_andThen, Call.conceal_andThen, hjournal,
        h.conceal_operate hredactor request "retrieve" replies]
      intro client client' query journal hclients
      dsimp only
      cases recordId request.query query with
      | error error => rfl
      | ok id =>
          unfold Client.fetchRecord
          dsimp only
          rw [Call.conceal_andThen, Call.conceal_andThen, Call.conceal_log, Call.conceal_log,
            Call.conceal_andThen, Call.conceal_andThen, Client.conceal_fetch hclients]
  | search =>
      unfold run search
      dsimp only
      rw [Call.conceal_andThen, Call.conceal_andThen, hjournal,
        h.conceal_operate hredactor request "search" replies]
      intro client client' query journal hclients
      unfold Client.searchRecords
      dsimp only
      rw [Call.conceal_log, Call.conceal_log, Call.conceal_andThen, Call.conceal_andThen,
        Call.conceal_andThen, Call.conceal_andThen, Client.conceal_fetch hclients]

end QueryBridge.Bridge.Adapter
