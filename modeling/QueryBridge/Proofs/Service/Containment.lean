import QueryBridge.Proofs.Http.Containment
import QueryBridge.Proofs.Service.Call
import QueryBridge.Proofs.Service.Request
import QueryBridge.Runtime.Standard

/-!
# Credentials of a client

Every attempt of a call begins with a request at the origin of the client's root.  From there
redirects pass credentials on within that origin and to its secure form, and a row of redirects
that has left both never has them again.
-/

namespace QueryBridge.Service

/-- What a client can ask the service for. -/
inductive Inquiry where
  | check
  | count (escapedQuery : String)
  | record (recordId : String)
  | search (escapedQuery : String)

def Inquiry.resource : Inquiry → String
  | check => checkPath
  | count escapedQuery => countResource escapedQuery
  | record recordId => recordResource recordId
  | search escapedQuery => searchResource escapedQuery

namespace Client

theorem isRooted_resource (inquiry : Inquiry) : Url.IsRooted inquiry.resource.toList := by
  cases inquiry with
  | check => exact isRooted_checkPath
  | count escapedQuery => exact isRooted_countResource escapedQuery
  | record recordId => exact isRooted_recordResource recordId
  | search escapedQuery => exact isRooted_searchResource escapedQuery

/-- A request for a resource goes to the origin of the root. -/
theorem origin_of_request {client : Client} {resource : String} {request : Http.Request}
    (h : client.request resource = .ok request) (hresource : Url.IsRooted resource.toList) :
    ∃ root, Url.parse client.baseUrl.toList = .ok root ∧ request.url.origin = root.origin := by
  obtain ⟨root, base, hroot, hbase, -, hurl, -⟩ := request_cases h
  obtain ⟨hnormal, horigin⟩ := (Url.IsNormal.of_parse hroot).toBase hbase
  exact ⟨root, hroot, (hnormal.origin_below hresource hurl).trans horigin⟩

section

variable [Runtime]

/-- The attempts of the call that makes an inquiry. -/
def attemptsAt (client : Client) (journal : Journal) (replies : List Http.Reply) :
    Inquiry → List Http.Attempt
  | .check => (client.checkCredentials journal replies).attempts
  | .count escapedQuery => (client.fetchCount journal escapedQuery replies).attempts
  | .record recordId => (client.fetchRecord journal recordId replies).attempts
  | .search escapedQuery => (client.searchRecords journal escapedQuery replies).attempts

theorem attemptsAt_eq (client : Client) (journal : Journal) (replies : List Http.Reply)
    (inquiry : Inquiry) :
    client.attemptsAt journal replies inquiry =
      (client.fetch journal inquiry.resource replies).attempts := by
  cases inquiry with
  | check => exact Call.attempts_andThen _ _
  | count escapedQuery => exact Call.attempts_andThen _ readCount
  | record recordId => exact Call.attempts_andThen _ readRecord
  | search escapedQuery => exact Call.attempts_andThen _ readRecords

/-- Every attempt of a call is the sending of one request, at the origin of the root. -/
theorem exists_send_of_mem_attemptsAt {client : Client} {journal : Journal}
    {replies : List Http.Reply} {inquiry : Inquiry} {attempt : Http.Attempt}
    (h : attempt ∈ client.attemptsAt journal replies inquiry) :
    ∃ request left root, attempt = Http.send request left ∧
      Url.parse client.baseUrl.toList = .ok root ∧ request.url.origin = root.origin := by
  rw [attemptsAt_eq, attempts_fetch] at h
  cases hrequest : client.request inquiry.resource with
  | error failure =>
      rw [hrequest] at h
      exact absurd h List.not_mem_nil
  | ok request =>
      rw [hrequest] at h
      obtain ⟨left, hsend⟩ := Http.exists_send_of_mem_exchangeFrom h
      obtain ⟨root, hroot, horigin⟩ := origin_of_request hrequest (isRooted_resource inquiry)
      exact ⟨request, left, root, hsend, hroot, horigin⟩

/-- A request of a call has credentials only where the origin of the client's root admits them.
Behind a request that goes elsewhere, no request of the same attempt has them. -/
theorem calls_keep_credentials_at_root (client : Client) (journal : Journal)
    (replies : List Http.Reply) (inquiry : Inquiry) :
    ∀ attempt ∈ client.attemptsAt journal replies inquiry,
      ∃ root, Url.parse client.baseUrl.toList = .ok root ∧
        (∀ sent ∈ attempt.requests, sent.HasCredentials → root.origin.Admits sent.url.origin) ∧
        ∀ before sent later, attempt.requests = before ++ sent :: later →
          ¬ root.origin.Admits sent.url.origin → ∀ other ∈ later, ¬ other.HasCredentials := by
  intro attempt hattempt
  obtain ⟨request, left, root, rfl, hroot, horigin⟩ := exists_send_of_mem_attemptsAt hattempt
  have hadmits : ∀ sent ∈ (Http.send request left).requests, sent.HasCredentials →
      root.origin.Admits sent.url.origin := by
    intro sent hsent hcredentials
    rw [← horigin]
    exact Http.admits_of_mem_requests_send hsent hcredentials
  refine ⟨root, hroot, hadmits, ?_⟩
  intro before sent later hrequests houtside other hother
  have hsent : sent ∈ (Http.send request left).requests := by
    rw [hrequests]
    exact List.mem_append_right before List.mem_cons_self
  -- the request elsewhere has no credentials itself
  have hlost : ¬ sent.HasCredentials := mt (hadmits sent hsent) houtside
  exact Http.not_hasCredentials_of_later hrequests hlost hother

end

/-- On its way through the secure form of the root the token is kept.  Elsewhere it is lost, and
it does not come back with the third redirect. -/
theorem token_lost_elsewhere :
    let client : Client := ⟨"http://h", some (.bearer "token"), [], 1⟩
    let leadTo := fun location => Http.Reply.answer ⟨302, [("Location", location)], []⟩
    let replies := [leadTo "https://h/a", leadTo "//elsewhere:443/b", leadTo "https://h/c"]
    ∃ attempt ∈ client.attemptsAt client.ownJournal replies .check,
      ∃ first second third fourth, attempt.requests = [first, second, third, fourth] ∧
        second.HasCredentials ∧ second.url.origin = ⟨"https".toList, "h".toList, some 443⟩ ∧
        third.url.origin = ⟨"https".toList, "elsewhere".toList, some 443⟩ ∧
        fourth.url.origin = second.url.origin ∧ ¬ fourth.HasCredentials := by
  intro client leadTo replies
  have hsummary : (client.attemptsAt client.ownJournal replies .check).map
      (fun attempt => attempt.requests.map fun sent =>
        (sent.url.origin, decide sent.HasCredentials)) =
      [[(⟨"http".toList, "h".toList, some 80⟩, true),
        (⟨"https".toList, "h".toList, some 443⟩, true),
        (⟨"https".toList, "elsewhere".toList, some 443⟩, false),
        (⟨"https".toList, "h".toList, some 443⟩, false)]] := by decide +kernel
  obtain ⟨attempt, hattempts, hsummary⟩ := List.map_eq_singleton_iff.mp hsummary
  have hattempt : attempt ∈ client.attemptsAt client.ownJournal replies .check := by
    rw [hattempts]
    exact List.mem_singleton_self attempt
  simp only [List.map_eq_cons_iff, List.map_eq_nil_iff, Prod.mk.injEq, decide_eq_true_eq]
    at hsummary
  obtain ⟨first, -, hrequests, -, second, -, rfl, ⟨hsecond, hkept⟩, third, -, rfl, ⟨hthird, -⟩,
    fourth, -, rfl, ⟨hfourth, -⟩, rfl⟩ := hsummary
  refine ⟨attempt, hattempt, first, second, third, fourth, hrequests, hkept, hsecond, hthird,
    hfourth.trans hsecond.symm, ?_⟩
  obtain ⟨root, hroot, -, hlost⟩ :=
    calls_keep_credentials_at_root client client.ownJournal replies .check attempt hattempt
  have hparse : Url.parse client.baseUrl.toList =
      .ok ⟨"http".toList, [], "h".toList, none, [], none, none⟩ := by decide +kernel
  cases hparse.symm.trans hroot
  refine hlost [first, second] third [fourth] hrequests ?_ fourth (List.mem_singleton_self fourth)
  rw [hthird]
  decide

end Client

end QueryBridge.Service
