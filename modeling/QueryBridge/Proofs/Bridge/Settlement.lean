import QueryBridge.Proofs.Bridge.Acceptance
import QueryBridge.Proofs.Bridge.Operation
import QueryBridge.Proofs.Bridge.Run
import QueryBridge.Proofs.Service.Concealment
import QueryBridge.Proofs.Service.Retry
import QueryBridge.Proofs.Url.Endpoint

/-!
# Failures that are not reported

A call of the service is settled by a value or by an error that is reported.  What is not
reported is a request that cannot be made, because of the endpoint, the credentials or the query,
a location that leads astray, and a body that nests too deeply; a verification does not catch
these either.

An accepted connection has shown that the endpoint and the credentials are good, and they stay with
the client.  So an operation can only fail unreported by the text of its own resource, by a
location or by a body.
-/

namespace QueryBridge.Bridge.Adapter

open QueryBridge.Http (EndsAstray)
open QueryBridge.Service (Call Client IsSettled Overflows SettlesUnlessDeep isSettled_bind_iff)

variable {adapter : Adapter} {replies : List Http.Reply}

/-! ## Connections -/

/-- What a connection reads in the response to its check. -/
def readCheck (response : Http.Response) : Except Failure Unit :=
  (checkRefused response.status).map fun _ => ()

theorem isSettled_readCheck (response : Http.Response) : IsSettled (readCheck response) := by
  unfold readCheck checkRefused
  split
  · exact Service.isSettled_reported _
  · exact Service.isSettled_ok ()

/-- A connection is one call of its client for the check of the credentials. -/
theorem connect_of_authorization {authorization : Authorization}
    (hattempts : 1 ≤ adapter.attempts) (h : adapter.authorization = .ok authorization)
    (replies : List Http.Reply) :
    ∃ journal,
      let call := (adapter.clientWith authorization).fetch journal Service.checkPath replies
      (adapter.connect replies).2.attempts = call.attempts ∧
      (adapter.connect replies).2.outcome = call.outcome.bind readCheck := by
  generalize hinformed :
    ({ adapter with redactor := adapter.redactor.add authorization.secrets } : Adapter) = informed
  have hclient : informed.clientWith authorization = adapter.clientWith authorization := by
    rw [← hinformed]
    rfl
  have hmake : Client.make informed.endpoint (some authorization) [] informed.attempts =
      .ok (adapter.clientWith authorization) := by
    rw [make_eq, hclient, if_neg]
    rw [← hinformed]
    dsimp only
    omega
  refine ⟨informed.journal, ?_⟩
  unfold connect
  rw [h]
  dsimp only
  rw [hinformed]
  unfold connectWith
  rw [hmake]
  dsimp only [Client.checkCredentials]
  generalize (adapter.clientWith authorization).fetch informed.journal Service.checkPath
    replies = call
  refine ⟨by simp, ?_⟩
  simp only [Call.outcome_andThen, Call.outcome_log]
  cases call.outcome with
  | error failure => rfl
  | ok response =>
      dsimp only [Except.bind, readCheck]
      cases checkRefused response.status <;> rfl

/-- The credentials that there are can be encoded, and the check can be requested with them. -/
def CanConnect (adapter : Adapter) : Prop :=
  ∀ credentials, adapter.credentials = .ok credentials →
    ∃ authorization, credentials.authorization? = some authorization ∧
      (adapter.clientWith authorization).CanSend Service.checkPath

theorem canConnect_iff {authorization : Authorization}
    (h : adapter.authorization = .ok authorization) :
    adapter.CanConnect ↔ (adapter.clientWith authorization).CanSend Service.checkPath := by
  obtain ⟨credentials, hcredentials, hencoded⟩ := authorization_eq_ok_iff_of_credentials.mp h
  constructor
  · intro hconnect
    obtain ⟨other, hother, hsend⟩ := hconnect credentials hcredentials
    rw [hencoded] at hother
    cases hother
    exact hsend
  · intro hsend other hother
    rw [hcredentials] at hother
    cases hother
    exact ⟨authorization, hencoded, hsend⟩

/-- A connection settles exactly if its credentials can be encoded, the check can be requested of
the endpoint, and no location leads astray. -/
theorem isSettled_connect_iff (hattempts : 1 ≤ adapter.attempts)
    (hreplies : ∀ reply ∈ replies, reply.isReadable) :
    IsSettled (adapter.connect replies).2.outcome ↔
      adapter.CanConnect ∧
      ∀ error, ¬ EndsAstray (adapter.connect replies).2.requests replies error := by
  cases hauthorization : adapter.authorization with
  | error failure =>
      rw [connect_of_authorization_error hauthorization]
      rcases authorization_eq_error_iff.mp hauthorization with
        ⟨error, hnone, rfl⟩ | ⟨credentials, hcredentials, hbroken, rfl⟩
      · refine iff_of_true (Service.isSettled_reported error) ⟨?_, Http.not_endsAstray_nil replies⟩
        intro credentials h
        cases hnone.symm.trans h
      · refine iff_of_false (by simp) fun h => ?_
        obtain ⟨authorization, hencoded, -⟩ := h.1 credentials hcredentials
        cases hbroken.symm.trans hencoded
  | ok authorization =>
      obtain ⟨journal, hsent, houtcome⟩ := connect_of_authorization hattempts hauthorization replies
      rw [houtcome, isSettled_bind_iff, Call.requests_congr hsent,
        Client.isSettled_fetch_iff _ journal _ hreplies, canConnect_iff hauthorization]
      simp [isSettled_readCheck]

/-! ## Credentials that cannot be sent -/

/-- Headers that cannot be sent come from credentials that cannot. -/
theorem isUnsendable_of_not_areEncodable {credentials : Credentials}
    {authorization : Authorization} (hencoded : credentials.authorization? = some authorization)
    (h : Http.Headers.areEncodable (adapter.clientWith authorization).headers = false) :
    credentials.IsUnsendable := by
  cases authorization with
  | basic username password =>
      rw [Client.areEncodable_headers rfl rfl] at h
      cases h
  | bearer token =>
      cases credentials with
      | basic username password =>
          obtain ⟨user, pass, -, -, hbasic⟩ :=
            Credentials.authorization?_basic_eq_some_iff.mp hencoded
          cases hbasic
      | bearer other =>
          cases hencoded
          by_contra hsendable
          have hascii : ∀ code ∈ token.codes, code < 0x80 := fun code hcode =>
            Nat.lt_of_not_le fun hlarge => hsendable ⟨code, hcode, hlarge⟩
          have hheader : Http.Headers.isAscii (Authorization.bearer token).header = true := by
            unfold Http.Headers.isAscii Authorization.header
            dsimp only
            rw [CodeString.codes_append, List.all_append,
              List.all_eq_true.mpr fun code hcode => decide_eq_true (hascii code hcode)]
            rfl
          rw [Client.headers_eq rfl rfl, Http.Headers.areEncodable] at h
          simp only [List.all_cons, List.all_nil, hheader, Bool.and_true] at h
          exact absurd h (by decide)

/-- What keeps a connection from settling. -/
theorem outcome_connect_of_not_isSettled (hattempts : 1 ≤ adapter.attempts)
    (hreplies : ∀ reply ∈ replies, reply.isReadable)
    (h : ¬ IsSettled (adapter.connect replies).2.outcome) :
    (∃ error, (adapter.connect replies).2.outcome = .error (.invalidUrl error)) ∨
      (adapter.connect replies).2.outcome = .error .headerEncoding ∧
        ∃ credentials, adapter.credentials = .ok credentials ∧ credentials.IsUnsendable := by
  cases hauthorization : adapter.authorization with
  | error failure =>
      rw [connect_of_authorization_error hauthorization] at h ⊢
      rcases authorization_eq_error_iff.mp hauthorization with
        ⟨error, -, rfl⟩ | ⟨credentials, hcredentials, hbroken, rfl⟩
      · exact absurd (Service.isSettled_reported error) h
      · exact Or.inr ⟨rfl, credentials, hcredentials,
          Credentials.isUnsendable_of_authorization? hbroken⟩
  | ok authorization =>
      obtain ⟨credentials, hcredentials, hencoded⟩ :=
        authorization_eq_ok_iff_of_credentials.mp hauthorization
      obtain ⟨journal, -, houtcome⟩ := connect_of_authorization hattempts hauthorization replies
      -- the answer to the check is read without failing, so it is the fetch that does not settle
      have hfetch := mt (fun hfetch => isSettled_bind_iff.mpr
        ⟨hfetch, fun response _ => isSettled_readCheck response⟩) (houtcome ▸ h)
      rw [houtcome]
      rcases Client.outcome_fetch_of_not_isSettled hreplies hfetch with
        ⟨error, hfetch⟩ | ⟨hfetch, hencodable⟩
      · rw [hfetch]
        exact Or.inl ⟨error, rfl⟩
      · rw [hfetch]
        exact Or.inr ⟨rfl, credentials, hcredentials,
          isUnsendable_of_not_areEncodable hencoded hencodable⟩

/-- A verification returns exactly if the connection settles. -/
theorem exists_verification_iff :
    (∃ verification, (adapter.verify replies).2.outcome = .ok verification) ↔
      IsSettled (adapter.connect replies).2.outcome := by
  unfold verify
  dsimp only
  cases (adapter.connect replies).2.outcome with
  | ok result => simp
  | error failure => cases failure <;> simp

/-! ## The client in use -/

/-- A connection that succeeds has requested the check with its client. -/
theorem canSend_of_isOk_connect (hattempts : 1 ≤ adapter.attempts)
    (h : (adapter.connect replies).2.outcome.isOk = true) {authorization : Authorization}
    (hauthorization : adapter.authorization = .ok authorization) :
    (adapter.clientWith authorization).CanSend Service.checkPath := by
  obtain ⟨journal, -, houtcome⟩ := connect_of_authorization hattempts hauthorization replies
  rw [houtcome] at h
  by_contra hsend
  -- without a request the call fails, and what failed is not read
  rcases Client.outcome_fetch_of_not_canSend hsend journal replies with
    ⟨error, hfetch⟩ | ⟨hfetch, -⟩
  · rw [hfetch] at h
    cases h
  · rw [hfetch] at h
    cases h

theorem canSend_of_accepts [Runtime] {action : Action} (hattempts : 1 ≤ adapter.attempts)
    (h : adapter.accepts action = true) {client : Client}
    (hclient : (adapter.perform action).1.client = some client) :
    client.CanSend Service.checkPath := by
  obtain ⟨authorization, hauthorization, hstate⟩ := perform_of_accepts h
  rw [hstate] at hclient
  cases hclient
  cases action with
  | connect replies => exact canSend_of_isOk_connect hattempts h hauthorization
  | verify replies =>
      rw [accepts_verify] at h
      exact canSend_of_isOk_connect hattempts h hauthorization
  | setProperties values => cases h
  | listProperties => cases h
  | operate operation request replies => cases h

/-- The client in use has once requested the check: its root and its headers are good. -/
theorem canSend_after [Runtime] {endpoint : String} {registry : Registry} {attempts : Int}
    {override : Option Credentials} (hattempts : 1 ≤ attempts) {actions : List Action}
    {client : Client}
    (h : ((make endpoint registry attempts override).after actions).client = some client) :
    client.CanSend Service.checkPath := by
  induction actions using List.reverseRecOn with
  | nil => cases h
  | append_singleton actions action ih =>
      rw [after_concat] at h
      have hsetup := sameSetup_after (make endpoint registry attempts override) actions
      generalize (make endpoint registry attempts override).after actions = adapter at h ih hsetup
      cases haccepts : adapter.accepts action with
      | true =>
          refine canSend_of_accepts ?_ haccepts h
          rw [hsetup.attempts_eq]
          exact hattempts
      | false =>
          rw [client_perform_of_not_accepts haccepts] at h
          exact ih h

/-! ## Operations -/

theorem settlesUnlessDeep_read [Runtime] (operation : Operation) (fields : List CodeString)
    (response : Http.Response) :
    SettlesUnlessDeep response (operation.read fields response) := by
  cases operation with
  | count => exact (Client.settlesUnlessDeep_readCount response).map _
  | retrieve => exact (Client.settlesUnlessDeep_readRecord response).map _
  | search => exact (Client.settlesUnlessDeep_readRecords response).map _

/-- The last attempt got a response with a body that is read, and nests too deeply. -/
def EndsTooDeep [Runtime] (attempts : List Http.Attempt) : Prop :=
  ∃ attempt response, attempts.getLast? = some attempt ∧ attempt.outcome = .ok response ∧
    Overflows response

theorem not_endsTooDeep_nil [Runtime] : ¬ EndsTooDeep [] := by
  rintro ⟨attempt, response, hlast, -⟩
  cases hlast

/-- What is read in the response of a call settles unless its body nests too deeply. -/
theorem isSettled_bind_read_iff [Runtime] {client : Client} {journal : Service.Journal}
    {resource : String} (operation : Operation) (fields : List CodeString) :
    IsSettled ((client.fetch journal resource replies).outcome.bind (operation.read fields)) ↔
      IsSettled (client.fetch journal resource replies).outcome ∧
        ¬ EndsTooDeep (client.fetch journal resource replies).attempts := by
  rw [isSettled_bind_iff]
  refine and_congr_right fun _ => ⟨?_, fun hshallow response hresponse => ?_⟩
  · rintro hread ⟨attempt, response, hlast, hresponse, hdeep⟩
    have hreturned := Client.outcome_fetch_eq_ok_iff.mpr ⟨attempt, hlast, hresponse⟩
    exact (settlesUnlessDeep_read operation fields response).isSettled_iff.mp
      (hread response hreturned) hdeep
  · obtain ⟨attempt, hlast, hresponse⟩ := Client.outcome_fetch_eq_ok_iff.mp hresponse
    exact (settlesUnlessDeep_read operation fields response).isSettled_iff.mpr
      fun hdeep => hshallow ⟨attempt, response, hlast, hresponse, hdeep⟩

/-- An operation settles exactly if its resource can be requested, no location leads astray, and
the body does not nest too deeply. -/
theorem isSettled_run_iff [Runtime] {operation : Operation} {request : Request}
    (hreplies : ∀ reply ∈ replies, reply.isReadable) :
    IsSettled (adapter.run operation request replies).outcome ↔
      (∀ client resource, adapter.target operation request = .ok (client, resource) →
        client.CanSend resource) ∧
      (∀ error, ¬ EndsAstray (adapter.run operation request replies).requests replies error) ∧
      ¬ EndsTooDeep (adapter.run operation request replies).attempts := by
  cases htarget : adapter.target operation request with
  | error error =>
      obtain ⟨houtcome, hattempts⟩ := run_of_target_error htarget replies
      unfold Call.requests
      rw [houtcome, hattempts]
      refine iff_of_true (Service.isSettled_reported error)
        ⟨?_, Http.not_endsAstray_nil replies, not_endsTooDeep_nil⟩
      intro client resource h
      cases h
  | ok found =>
      obtain ⟨client, resource⟩ := found
      obtain ⟨houtcome, hattempts⟩ := run_of_target_ok htarget replies
      rw [houtcome, hattempts, isSettled_bind_read_iff, Call.requests_congr hattempts,
        Client.isSettled_fetch_iff _ _ _ hreplies, and_assoc]
      simp

/-- With a client that could request the check, only the text of its resource, a location or a
body keeps an operation from settling. -/
theorem outcome_run_of_not_isSettled [Runtime] {operation : Operation} {request : Request}
    (hreplies : ∀ reply ∈ replies, reply.isReadable)
    (hclient : ∀ client, adapter.client = some client → client.CanSend Service.checkPath)
    (h : ¬ IsSettled (adapter.run operation request replies).outcome) :
    (adapter.run operation request replies).outcome = .error .tooDeep ∧
        EndsTooDeep (adapter.run operation request replies).attempts ∨
      ∃ error, (adapter.run operation request replies).outcome = .error (.invalidUrl error) ∧
        (EndsAstray (adapter.run operation request replies).requests replies error ∨
          ∃ client resource, adapter.target operation request = .ok (client, resource) ∧
            error.LiesIn resource.toList) := by
  cases htarget : adapter.target operation request with
  | error error =>
      rw [(run_of_target_error htarget replies).1] at h
      exact absurd (Service.isSettled_reported error) h
  | ok found =>
      obtain ⟨client, resource⟩ := found
      obtain ⟨hready, query, -, hresource⟩ := target_eq_ok htarget
      obtain ⟨houtcome, hattempts⟩ := run_of_target_ok htarget replies
      -- the fetch does not settle, or its response is too deep to be read
      rw [houtcome, isSettled_bind_read_iff, not_and_or, not_not] at h
      rw [houtcome, Call.requests_congr hattempts, hattempts]
      rcases h with hfailed | hdeep
      · obtain ⟨error, hfetch, hcause⟩ := Client.outcome_fetch_of_canSend_other
          (hclient client hready) Client.isRooted_checkPath (Operation.isRooted_resource hresource)
          hreplies hfailed
        rw [hfetch]
        refine Or.inr ⟨error, rfl, ?_⟩
        rcases hcause with hastray | hlies
        · exact Or.inl hastray
        · exact Or.inr ⟨client, resource, rfl, hlies⟩
      · obtain ⟨attempt, response, hlast, hresponse, hoverflows⟩ := hdeep
        rw [Client.outcome_fetch_eq_ok_iff.mpr ⟨attempt, hlast, hresponse⟩]
        exact Or.inl ⟨(settlesUnlessDeep_read operation request.fields response).tooDeep
          hoverflows, attempt, response, hlast, hresponse, hoverflows⟩

/-- An operation that passes its checks is one call for its resource, of a client that has once
requested the check of the endpoint. -/
theorem exists_client_of_checks [Runtime] {endpoint : String} {registry : Registry} {attempts : Int}
    {override : Option Credentials} {actions : List Action} {operation : Operation}
    {request : Request} {query resource : String}
    (hadapter : adapter = (make endpoint registry attempts override).after actions)
    (hstructure : adapter.registry.contains request.structureName = true)
    (hready : adapter.isReady = true)
    (hresolve : Template.resolve request.query request.parameters = .ok query)
    (hresource : operation.resource request.query query = .ok resource)
    (replies : List Http.Reply) :
    ∃ client : Client, client.CanSend Service.checkPath ∧
      client.baseUrl = Text.dropEndSlashes endpoint ∧
      (adapter.run operation request replies).requests =
        (client.fetch adapter.journal resource replies).requests := by
  obtain ⟨client, hclient⟩ := Option.isSome_iff_exists.mp hready
  have htarget : adapter.target operation request = .ok (client, resource) := by
    rw [target_of_resolve hstructure hclient hresolve, hresource]
  have hrequests := Call.requests_congr (run_of_target_ok htarget replies).2
  rw [hadapter] at hclient
  obtain ⟨hattempts, hbaseUrl⟩ := exists_client_after hclient
  exact ⟨client, canSend_after hattempts hclient, hbaseUrl, hrequests⟩

/-! ## All actions -/

end QueryBridge.Bridge.Adapter
