import QueryBridge.Proofs.Service.Settlement
import QueryBridge.Proofs.Url.Resource

/-!
# Requests for resources

The first request of a call is the client's request for its resource.  A client that could
request one path can request every resource that can be printed and is short enough; the URL of
the request is that of the resource below the root.
-/

namespace QueryBridge.Service.Client

open QueryBridge.Text.Percent (encodeChars encodeExcept)
open QueryBridge.Url (IsResourcePath resourceText)

variable {client : Client} {root : Url} {resource : String} {inner : List Char}
  {query : Option (List Char)} {sent : Http.Request}

/-! ## The first request -/

/-- A call that sends anything sends the client's request first. -/
theorem head?_requests_fetch_iff (client : Client) (journal : Journal) (resource : String)
    (replies : List Http.Reply) (sent : Http.Request) :
    (client.fetch journal resource replies).requests.head? = some sent ↔
      client.request resource = .ok sent := by
  unfold Call.requests
  rw [attempts_fetch]
  cases client.request resource with
  | error failure => simp
  | ok request =>
      dsimp only
      -- an exchange has a last attempt at least, and every attempt begins with the request
      cases hattempts : (Http.exchange request client.attempts replies).attempts with
      | nil =>
          have hnone : (Http.exchange request client.attempts replies).attempts ≠ [] := by
            unfold Http.Exchange.attempts
            exact List.append_ne_nil_of_right_ne_nil _ (List.cons_ne_nil _ _)
          exact absurd hattempts hnone
      | cons first others =>
          have hmem : first ∈ (Http.exchange request client.attempts replies).attempts := by
            rw [hattempts]
            exact List.mem_cons_self
          rw [List.flatMap_cons, List.head?_append, Http.head?_requests_of_mem_exchange hmem]
          simp

/-! ## Sending -/

theorem below_of_request (h : client.request resource = .ok sent)
    (hroot : Url.parse client.baseUrl.toList = .ok root) :
    ∃ base, root.toBase = .ok base ∧ base.below resource.toList = .ok sent.url := by
  obtain ⟨found, base, hparse, hbase, -, hurl, -⟩ := request_cases h
  cases hroot.symm.trans hparse
  exact ⟨base, hbase, hurl⟩

/-- A client that can request the check can request other resources below its root. -/
theorem canSend_of_checkPath (hsend : client.CanSend checkPath)
    (hparse : Url.parse client.baseUrl.toList = .ok root) (hroot : root.IsRoot)
    (hinner : IsResourcePath inner) (hresource : resource.toList = resourceText inner query)
    (hprintable : ∀ c ∈ resourceText inner query, Url.isUnprintableAscii c = false)
    (hlength : (root.path ++
      resourceText inner (query.map (encodeExcept Url.isQuerySafe))).length ≤ Url.maxLength) :
    client.CanSend resource := by
  obtain ⟨checked, hchecked⟩ := hsend
  obtain ⟨found, base, hfound, hbase, hencodable, hgood, -⟩ := request_cases hchecked
  cases hparse.symm.trans hfound
  obtain ⟨url, hurl⟩ := Url.exists_below hroot hbase hgood isRooted_checkPath hinner hprintable
    hlength
  rw [← hresource] at hurl
  refine ⟨⟨url, withUrlCredentials url (Http.Headers.update client.headers ambientHeaders)⟩, ?_⟩
  simp only [Client.request, bind, Except.bind, Except.mapError, hparse, hbase, hencodable, hurl,
    Bool.not_true, Bool.false_eq_true, if_false]
  rfl

/-! ## Records -/

/-- The path of the resource of a record, behind its slash. -/
def recordInner (id : String) : List Char :=
  "path/to/retrieve/record/".toList ++ encodeChars id.toList

theorem toList_recordResource (id : String) :
    (recordResource id).toList = resourceText (recordInner id) none := by
  have hpath : retrievePath.toList ++ "/".toList = '/' :: "path/to/retrieve/record/".toList := by
    decide
  calc (recordResource id).toList
      = retrievePath.toList ++ "/".toList ++ encodeChars id.toList := by
        rw [recordResource, String.toList_append, String.toList_append,
          Text.Percent.toList_encode]
    _ = '/' :: recordInner id := congrArg (· ++ encodeChars id.toList) hpath
    _ = resourceText (recordInner id) none := congrArg ('/' :: ·) (List.append_nil _).symm

theorem isResourcePath_recordInner (id : String) : IsResourcePath (recordInner id) where
  head_ne := ⟨'p', _, rfl, by decide⟩
  safe := by
    unfold recordInner
    rw [List.forall_mem_append]
    exact ⟨List.all_eq_true.mp (by decide), fun _ hc =>
      Url.keepsEncoded_isPathSafe.isSafe_of_mem_encodeChars hc⟩

/-! ## Counts -/

def countInner : List Char :=
  "path/to/count/endpoint".toList

theorem toList_countResource (escapedQuery : String) :
    (countResource escapedQuery).toList =
      resourceText countInner (some ("query=".toList ++ escapedQuery.toList)) := by
  have hpath : countPath.toList ++ "?query=".toList =
      '/' :: (countInner ++ '?' :: "query=".toList) := by decide
  calc (countResource escapedQuery).toList
      = countPath.toList ++ "?query=".toList ++ escapedQuery.toList := by
        rw [countResource, String.toList_append, String.toList_append]
    _ = '/' :: (countInner ++ '?' :: "query=".toList) ++ escapedQuery.toList :=
        congrArg (· ++ escapedQuery.toList) hpath
    _ = resourceText countInner (some ("query=".toList ++ escapedQuery.toList)) := by
        rw [resourceText, Url.withMark, List.cons_append, List.append_assoc, List.cons_append]

theorem isResourcePath_countInner : IsResourcePath countInner :=
  ⟨⟨'p', _, rfl, by decide⟩, List.all_eq_true.mp (by decide)⟩

/-! ## Searches -/

def searchInner : List Char :=
  "path/to/search/records".toList

/-- The query of a search, if there is one. -/
def searchQuery (escapedQuery : String) : Option (List Char) :=
  if escapedQuery = "" then none else some escapedQuery.toList

theorem toList_searchResource (escapedQuery : String) :
    (searchResource escapedQuery).toList = resourceText searchInner (searchQuery escapedQuery) := by
  unfold searchResource searchQuery
  split
  · rfl
  · have hpath : searchPath.toList ++ "?".toList = '/' :: (searchInner ++ ['?']) := by decide
    calc (searchPath ++ "?" ++ escapedQuery).toList
        = searchPath.toList ++ "?".toList ++ escapedQuery.toList := by
          rw [String.toList_append, String.toList_append]
      _ = '/' :: (searchInner ++ ['?']) ++ escapedQuery.toList :=
          congrArg (· ++ escapedQuery.toList) hpath
      _ = resourceText searchInner (some escapedQuery.toList) := by
          rw [resourceText, Url.withMark, List.cons_append, List.append_assoc,
            List.singleton_append]

theorem isResourcePath_searchInner : IsResourcePath searchInner :=
  ⟨⟨'p', _, rfl, by decide⟩, List.all_eq_true.mp (by decide)⟩

end QueryBridge.Service.Client
