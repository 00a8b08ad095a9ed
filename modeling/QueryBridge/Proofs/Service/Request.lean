import QueryBridge.Proofs.Http.Attempt
import QueryBridge.Proofs.Http.Headers
import QueryBridge.Proofs.Url.Below
import QueryBridge.Service.Client

/-!
# What a client sends

A client's request for a resource lies below its root and has its headers; the credentials
in a root, if there are any, take the place of its authorization.  Every attempt of a call
begins with that request.
-/

namespace QueryBridge.Service.Client

open QueryBridge.Bridge (Failure)

/-! ## The request -/

/-- Where a request comes from: the base, and the headers that can be sent. -/
theorem request_cases {client : Client} {resource : String} {request : Http.Request}
    (h : client.request resource = .ok request) :
    ∃ root base, Url.parse client.baseUrl.toList = .ok root ∧ root.toBase = .ok base ∧
      Http.Headers.areEncodable client.headers = true ∧
      base.below resource.toList = .ok request.url ∧
      request.headers =
        withUrlCredentials request.url (Http.Headers.update client.headers ambientHeaders) := by
  simp only [Client.request, bind, Except.bind, Except.mapError] at h
  cases hroot : Url.parse client.baseUrl.toList with
  | error error => simp [hroot] at h
  | ok root =>
      cases hbase : root.toBase with
      | error error => simp [hroot, hbase] at h
      | ok base =>
          simp only [hroot, hbase] at h
          split at h
          · cases h
          next hencodable =>
          cases hurl : base.below resource.toList with
          | error error => simp [hurl] at h
          | ok url =>
              simp only [hurl] at h
              cases h
              refine ⟨root, base, rfl, hbase, ?_, hurl, ?_⟩
              · simpa using hencodable
              · dsimp only

theorem headers_eq {client : Client} {authorization : Authorization}
    (hauthorization : client.authorization = some authorization)
    (hdefaults : client.defaultHeaders = []) :
    client.headers =
      [("Accept", .text "application/json"), (Authorization.headerName, authorization.header)] := by
  rw [headers, hauthorization, hdefaults]
  rfl

/-- The headers that a client without default headers sends. -/
theorem sentHeaders_eq {client : Client} {authorization : Authorization}
    (hauthorization : client.authorization = some authorization)
    (hdefaults : client.defaultHeaders = []) :
    Http.Headers.update client.headers ambientHeaders =
      [("Accept", .text "application/json"), (Authorization.headerName, authorization.header)] := by
  rw [headers_eq hauthorization hdefaults]
  rfl

theorem withUrlCredentials_of_userinfo_eq_nil {url : Url} (h : url.userinfo = [])
    (headers : Http.Headers) : withUrlCredentials url headers = headers := by
  unfold withUrlCredentials
  rw [h]
  rfl

/-- Nothing in a root without credentials takes the place of the client's own headers. -/
theorem headers_of_request {client : Client} {resource : String} {request : Http.Request}
    (h : client.request resource = .ok request)
    (hroot : ∀ root, Url.parse client.baseUrl.toList = .ok root → root.userinfo = [])
    (hresource : resource.toList.head? = some '/') :
    request.headers = Http.Headers.update client.headers ambientHeaders := by
  obtain ⟨root, base, hparse, hbase, -, hurl, hheaders⟩ := request_cases h
  have hanonymous : base.IsAnonymous :=
    (Url.IsAnonymous.of_parse hparse (hroot root hparse)).toBase hbase
  obtain ⟨rest, hrest⟩ : ∃ rest, resource.toList = '/' :: rest :=
    List.head?_eq_some_iff.mp hresource
  rw [hrest] at hurl
  rw [hheaders, withUrlCredentials_of_userinfo_eq_nil (hanonymous.below hurl).userinfo_eq]

/-- A root without credentials leaves the client's authorization in place. -/
theorem authorization_of_request {client : Client} {authorization : Authorization}
    {resource : String} {request : Http.Request}
    (h : client.request resource = .ok request)
    (hauthorization : client.authorization = some authorization)
    (hdefaults : client.defaultHeaders = [])
    (hroot : ∀ root, Url.parse client.baseUrl.toList = .ok root → root.userinfo = [])
    (hresource : resource.toList.head? = some '/') :
    Http.Headers.values Authorization.headerName request.headers = [authorization.header] := by
  rw [headers_of_request h hroot hresource, sentHeaders_eq hauthorization hdefaults,
    Http.Headers.values_cons_of_ne (by decide), Http.Headers.values_cons_of_eq (by rfl)]
  rfl

/-! ## The attempts of a call -/

theorem attempts_fetch (client : Client) (journal : Journal) (resource : String)
    (replies : List Http.Reply) :
    (client.fetch journal resource replies).attempts =
      match client.request resource with
      | .error _ => []
      | .ok request => (Http.exchange request client.attempts replies).attempts := by
  unfold fetch
  cases client.request resource with
  | error failure => rfl
  | ok request =>
      dsimp only
      split <;> rfl

/-- Every attempt of a call begins with the client's request for the resource. -/
theorem exists_request_of_mem_attempts_fetch {client : Client} {journal : Journal}
    {resource : String} {replies : List Http.Reply} {attempt : Http.Attempt}
    (h : attempt ∈ (client.fetch journal resource replies).attempts) :
    ∃ request, client.request resource = .ok request ∧
      attempt.requests.head? = some request := by
  rw [attempts_fetch] at h
  cases hrequest : client.request resource with
  | error failure =>
      rw [hrequest] at h
      exact absurd h List.not_mem_nil
  | ok request =>
      rw [hrequest] at h
      exact ⟨request, rfl, Http.head?_requests_of_mem_exchange h⟩

/-! ## Resources -/

theorem isRooted_checkPath : Url.IsRooted checkPath.toList :=
  ⟨'p', _, rfl, by decide⟩

theorem isRooted_countResource (escapedQuery : String) :
    Url.IsRooted (countResource escapedQuery).toList := by
  rw [countResource, String.toList_append, String.toList_append]
  exact ⟨'p', _, rfl, by decide⟩

theorem isRooted_recordResource (recordId : String) :
    Url.IsRooted (recordResource recordId).toList := by
  rw [recordResource, String.toList_append, String.toList_append]
  exact ⟨'p', _, rfl, by decide⟩

theorem isRooted_searchResource (escapedQuery : String) :
    Url.IsRooted (searchResource escapedQuery).toList := by
  unfold searchResource
  split
  · exact ⟨'p', _, rfl, by decide⟩
  · rw [String.toList_append, String.toList_append]
    exact ⟨'p', _, rfl, by decide⟩

end QueryBridge.Service.Client
