import QueryBridge.Proofs.Fields
import QueryBridge.Proofs.Service.Containment

/-!
# Default headers and the authorization

The authorization of a client takes the place of a default header of exactly its name.  Names of
default headers are told apart by case, but names of headers that are sent are not: a default
header under another spelling of the name is sent, too, and the request has more than one
authorization.
-/

namespace QueryBridge.Service.Client

open QueryBridge.Http.Headers (foldName values)

variable {client : Client} {authorization : Authorization} {headers : Http.Headers}

/-- The name of the authorization header in other letter cases. -/
def IsOtherSpelling (name : String) : Prop :=
  foldName name = foldName Authorization.headerName ∧ name ≠ Authorization.headerName

instance (name : String) : Decidable (IsOtherSpelling name) :=
  inferInstanceAs (Decidable (_ ∧ _))

/-! ## The headers of a client -/

theorem headers_eq_insert (hauthorization : client.authorization = some authorization) :
    client.headers = Fields.insert Authorization.headerName authorization.header
      (Fields.override [("Accept", "application/json")] client.defaultHeaders) := by
  rw [Client.headers, hauthorization]
  rfl

/-- The header of the authorization is there once under its own name. -/
theorem filter_headers_eq_singleton (hauthorization : client.authorization = some authorization) :
    client.headers.filter (fun header => header.1 = Authorization.headerName) =
      [(Authorization.headerName, authorization.header)] := by
  rw [headers_eq_insert hauthorization]
  refine Fields.filter_eq_singleton ?_ (Fields.mem_insert_self _ _ _)
  exact Fields.nodup_names_insert (Fields.nodup_names_override (by decide) _) _ _

/-- Under other spellings there are the default headers and nothing else. -/
theorem filter_headers_otherSpelling (hauthorization : client.authorization = some authorization) :
    client.headers.filter (fun header => IsOtherSpelling header.1) =
      Fields.ofList (client.defaultHeaders.filter fun header => IsOtherSpelling header.1) := by
  let other (name : String) : Bool := decide (IsOtherSpelling name)
  rw [headers_eq_insert hauthorization]
  exact (Fields.filter_insert_of_neg other (by decide +kernel) _ _).trans
    (Fields.filter_override other _ _)

/-- What a connection adds itself does not show under other names. -/
theorem filter_update_ambient (p : String → Bool) (hp : p "Accept" = false)
    (headers : Http.Headers) :
    (Http.Headers.update headers ambientHeaders).filter (fun header => p header.1) =
      headers.filter fun header => p header.1 := by
  have hambient : ∀ header ∈ ambientHeaders, p header.1 = false :=
    List.forall_mem_singleton.mpr hp
  have hnone : (ambientHeaders.filter fun header =>
      !headers.any fun other => foldName other.1 == foldName header.1).filter
      (fun header => p header.1) = [] := by
    rw [List.filter_eq_nil_iff]
    intro header hheader
    rw [hambient header (List.mem_filter.mp hheader).1]
    exact Bool.false_ne_true
  rw [Http.Headers.update, List.filter_append, hnone, List.nil_append]

/-! ## One authorization -/

/-- Headers with one authorization under its own name have one value for it exactly if there is
none under another spelling. -/
theorem values_eq_singleton_iff {value : CodeString}
    (hown : headers.filter (fun header => header.1 = Authorization.headerName) =
      [(Authorization.headerName, value)]) :
    values Authorization.headerName headers = [value] ↔
      ∀ header ∈ headers, ¬ IsOtherSpelling header.1 := by
  constructor
  · intro hvalues header hheader hother
    obtain ⟨single, hsingle, -⟩ := List.map_eq_singleton_iff.mp hvalues
    have heq : ∀ other ∈ headers, foldName other.1 = foldName Authorization.headerName →
        other = single := by
      intro other hmem hfold
      refine List.mem_singleton.mp ?_
      rw [← hsingle]
      exact List.mem_filter.mpr ⟨hmem, beq_iff_eq.mpr hfold⟩
    have hmem : (Authorization.headerName, value) ∈ headers := by
      refine List.mem_of_mem_filter (p := fun header => header.1 = Authorization.headerName) ?_
      rw [hown]
      exact List.mem_singleton_self _
    have hsame : header = (Authorization.headerName, value) :=
      (heq header hheader hother.1).trans (heq _ hmem rfl).symm
    exact hother.2 (congrArg Prod.fst hsame)
  · intro hnone
    have hfilter : headers.filter
        (fun header => foldName header.1 == foldName Authorization.headerName) =
        headers.filter fun header => header.1 = Authorization.headerName := by
      refine List.filter_congr fun header hheader => ?_
      rw [Bool.eq_iff_iff, beq_iff_eq, decide_eq_true_eq]
      constructor
      · intro hfold
        by_contra hne
        exact hnone header hheader ⟨hfold, hne⟩
      · intro hname
        rw [hname]
    rw [values, hfilter, hown]
    rfl

/-- Every attempt of a call begins with a request that has the authorization once under its own
name.  Under other spellings of the name it has the default headers, so the authorization is the
only one exactly if there are none. -/
theorem calls_authorize_beside_default_headers (client : Client) (journal : Journal)
    (replies : List Http.Reply) (inquiry : Inquiry) (authorization : Authorization)
    (hauthorization : client.authorization = some authorization)
    (hroot : ∀ root, Url.parse client.baseUrl.toList = .ok root → root.userinfo = []) :
    ∀ attempt ∈ client.attemptsAt journal replies inquiry,
      ∃ sent, attempt.requests.head? = some sent ∧
        sent.headers.filter (fun header => header.1 = Authorization.headerName) =
          [(Authorization.headerName, authorization.header)] ∧
        sent.headers.filter (fun header => IsOtherSpelling header.1) =
          Fields.ofList (client.defaultHeaders.filter fun header => IsOtherSpelling header.1) ∧
        (values Authorization.headerName sent.headers = [authorization.header] ↔
          ∀ header ∈ client.defaultHeaders, ¬ IsOtherSpelling header.1) := by
  intro attempt hattempt
  rw [attemptsAt_eq] at hattempt
  obtain ⟨sent, hsent, hhead⟩ := exists_request_of_mem_attempts_fetch hattempt
  have hheaders := headers_of_request hsent hroot (isRooted_resource inquiry).head?_eq
  -- the connection adds an `Accept` header at most, which neither filter keeps
  let own (name : String) : Bool := decide (name = Authorization.headerName)
  let other (name : String) : Bool := decide (IsOtherSpelling name)
  have hown : sent.headers.filter (fun header => header.1 = Authorization.headerName) =
      [(Authorization.headerName, authorization.header)] := by
    rw [hheaders]
    exact (filter_update_ambient own (by decide) _).trans
      (filter_headers_eq_singleton hauthorization)
  have hothers : sent.headers.filter (fun header => IsOtherSpelling header.1) =
      Fields.ofList (client.defaultHeaders.filter fun header => IsOtherSpelling header.1) := by
    rw [hheaders]
    exact (filter_update_ambient other (by decide +kernel) _).trans
      (filter_headers_otherSpelling hauthorization)
  refine ⟨sent, hhead, hown, hothers, (values_eq_singleton_iff hown).trans ?_⟩
  have hnone : sent.headers.filter (fun header => IsOtherSpelling header.1) = [] ↔
      client.defaultHeaders.filter (fun header => IsOtherSpelling header.1) = [] := by
    rw [hothers]
    exact Fields.ofList_eq_nil_iff
  simpa only [List.filter_eq_nil_iff, decide_eq_true_eq] using hnone

/-- A default header of exactly the name does not come beside the authorization. -/
theorem default_of_own_name_is_replaced :
    let defaults : Http.Headers := [("Authorization", "mine"), ("X-Trace", "on")]
    let client : Client := ⟨"http://h", some (.bearer "token"), defaults, 1⟩
    let reply := Http.Reply.answer ⟨200, [], []⟩
    ∃ attempt ∈ client.attemptsAt client.ownJournal [reply] .check,
      ∃ sent, attempt.requests.head? = some sent ∧
        values Authorization.headerName sent.headers = [.text "Bearer token"] := by
  intro defaults client reply
  have hroot : ∀ root, Url.parse client.baseUrl.toList = .ok root → root.userinfo = [] := by
    intro root h
    have hparse : Url.parse client.baseUrl.toList =
        .ok ⟨"http".toList, [], "h".toList, none, [], none, none⟩ := by decide +kernel
    cases hparse.symm.trans h
    rfl
  have hsome : (client.attemptsAt client.ownJournal [reply] .check).length = 1 := by
    decide +kernel
  obtain ⟨attempt, hattempts⟩ := List.length_eq_one_iff.mp hsome
  have hattempt : attempt ∈ client.attemptsAt client.ownJournal [reply] .check := by
    rw [hattempts]
    exact List.mem_singleton_self attempt
  obtain ⟨sent, hsent, -, -, hvalues⟩ := calls_authorize_beside_default_headers client
    client.ownJournal [reply] .check (.bearer "token") rfl hroot attempt hattempt
  exact ⟨attempt, hattempt, sent, hsent, hvalues.mpr (by decide +kernel)⟩

/-- In lower case the same header is sent, too. -/
theorem default_in_lower_case_is_sent :
    let client : Client := ⟨"http://h", some (.bearer "token"), [("authorization", "mine")], 1⟩
    let reply := Http.Reply.answer ⟨200, [], []⟩
    (client.attemptsAt client.ownJournal [reply] .check).map (fun attempt =>
      attempt.requests.map fun sent => values Authorization.headerName sent.headers) =
      [[[.text "mine", .text "Bearer token"]]] := by
  decide +kernel

end QueryBridge.Service.Client
