import QueryBridge.Proofs.Query.Sending
import QueryBridge.Proofs.Service.Resource
import QueryBridge.Runtime.Standard

/-!
# The URL of a search

The first request of a search has in its URL what is sent of the escaped query.  With a query
that can be printed and is short enough, a client that can make a request at all makes this one.
-/

namespace QueryBridge.Service.Client

open QueryBridge.Query (Term escape terms)
open QueryBridge.Text (splitOn)
open QueryBridge.Text.Percent (encodeExcept)
open QueryBridge.Url (resourceText)

variable {client : Client} {journal : Journal} {root : Url} {query : String}
  {replies : List Http.Reply}

/-! ## Searches -/

theorem requests_searchRecords [Runtime] (client : Client) (journal : Journal)
    (escapedQuery : String)
    (replies : List Http.Reply) :
    (client.searchRecords journal escapedQuery replies).requests =
      (client.fetch journal (searchResource escapedQuery) replies).requests :=
  Call.requests_congr (Call.attempts_andThen _ readRecords)

/-- The query of the first request of a search, part by part. -/
theorem parts_of_head?_requests [Runtime] (hparse : Url.parse client.baseUrl.toList = .ok root)
    (hquery : root.query = none) {sent : Http.Request}
    (hsent : (client.searchRecords journal (escape query) replies).requests.head? = some sent) :
    (sent.url.query.map (splitOn '&')).getD [] = Query.sentParts query := by
  have hroot : root.IsRoot := .of_parse hparse hquery
  rw [requests_searchRecords, head?_requests_fetch_iff] at hsent
  obtain ⟨base, hbase, hurl⟩ := below_of_request hsent hparse
  rw [toList_searchResource] at hurl
  have hsentQuery : sent.url.query = (searchQuery (escape query)).map Url.sentQuery :=
    (Url.below_eq_ok (hroot.toBase hbase) isResourcePath_searchInner hurl).1
  rw [hsentQuery, searchQuery, Query.sentParts]
  by_cases hterms : terms query = []
  · rw [if_pos (Query.escape_eq_empty_iff.mpr hterms), if_pos hterms]
    rfl
  · rw [if_neg (mt Query.escape_eq_empty_iff.mp hterms), if_neg hterms]
    rfl

/-- A search with a query that can be printed and is short enough sends a request. -/
theorem exists_head?_requests_search [Runtime] (hparse : Url.parse client.baseUrl.toList = .ok root)
    (hquery : root.query = none) (hsend : client.CanSend checkPath)
    (hprintable : ∀ c ∈ query.toList, Url.isUnprintableAscii c = false)
    (hlength : (root.path ++ encodeExcept Url.isQuerySafe
      (searchResource (escape query)).toList).length ≤ Url.maxLength) :
    ∃ sent, (client.searchRecords journal (escape query) replies).requests.head? = some sent := by
  have hresource := toList_searchResource (escape query)
  rw [hresource, Url.encode_resourceText isResourcePath_searchInner] at hlength
  have htext : ∀ c ∈ resourceText searchInner (searchQuery (escape query)),
      Url.isUnprintableAscii c = false := by
    intro c hc
    have hpath := Url.printable_of_isPathSafe isResourcePath_searchInner
    unfold searchQuery at hc
    split at hc
    · exact hpath c hc
    · rw [resourceText, Url.withMark, List.mem_cons, List.mem_append, List.mem_cons] at hc
      rcases hc with rfl | hc | rfl | hc
      · decide
      · exact hpath c (List.mem_cons_of_mem _ (List.mem_append_left _ hc))
      · decide
      · exact Query.printable_escape hprintable c hc
  obtain ⟨sent, hsent⟩ := canSend_of_checkPath hsend hparse (.of_parse hparse hquery)
    isResourcePath_searchInner hresource htext hlength
  refine ⟨sent, ?_⟩
  rw [requests_searchRecords, head?_requests_fetch_iff]
  exact hsent

/-- A search below a root without a query sends its terms in their order, each with its key and a
value that can be read back, as long as no key has a number sign.  The first key that has one
ends the query: the terms before it are sent, and nothing of its value or of what follows.  A
client that can make a request sends every search that can be printed and is short enough. -/
theorem search_sends_terms [Runtime] (client : Client) (journal : Journal) (root : Url)
    (query : String)
    (replies : List Http.Reply) (hparse : Url.parse client.baseUrl.toList = .ok root)
    (hquery : root.query = none) :
    let call := client.searchRecords journal (escape query) replies
    (∀ sent, call.requests.head? = some sent →
      let parts := (sent.url.query.map (splitOn '&')).getD []
      ((∀ term ∈ terms query, '#' ∉ term.key.toList) →
        List.Forall₂ Term.IsCarriedBy (terms query) parts) ∧
      ∀ before term after, terms query = before ++ term :: after →
        (∀ other ∈ before, '#' ∉ other.key.toList) → '#' ∈ term.key.toList →
        ∃ carried rest, parts = carried ++ [rest] ∧
          List.Forall₂ Term.IsCarriedBy before carried ∧ '=' ∉ rest) ∧
    (client.CanSend checkPath → (∀ c ∈ query.toList, Url.isUnprintableAscii c = false) →
      (root.path ++ encodeExcept Url.isQuerySafe
        (searchResource (escape query)).toList).length ≤ Url.maxLength →
      ∃ sent, call.requests.head? = some sent) := by
  intro call
  refine ⟨?_, exists_head?_requests_search hparse hquery⟩
  intro sent hsent parts
  have hparts : parts = Query.sentParts query := parts_of_head?_requests hparse hquery hsent
  rw [hparts]
  constructor
  · intro hkeys
    rw [Query.sentParts_of_keys hkeys]
    exact Query.forall₂_isCarriedBy_part (List.Subset.refl _)
  · intro before term after hterms hbefore hterm
    obtain ⟨rest, hsplit, hrest⟩ := Query.sentParts_of_mem hterms hbefore hterm
    have hsubset : before ⊆ terms query := by
      rw [hterms]
      exact List.subset_append_left before _
    exact ⟨before.map Term.part, rest, hsplit, Query.forall₂_isCarriedBy_part hsubset, hrest⟩

/-- Keys with blanks, with a percent sign and with other letters are sent. -/
theorem odd_keys_are_sent :
    let client : Client := ⟨"http://h", none, [], 1⟩
    let call := client.searchRecords client.ownJournal (escape " a b =c d&100%26\u00e9=1=2") []
    ∃ sent, call.requests.head? = some sent ∧
      List.Forall₂ Term.IsCarriedBy [⟨" a b ", "c d"⟩, ⟨"100%26\u00e9", "1=2"⟩]
        ((sent.url.query.map (splitOn '&')).getD []) := by
  intro client call
  have hparse : Url.parse client.baseUrl.toList =
      .ok ⟨"http".toList, [], "h".toList, none, [], none, none⟩ := by decide +kernel
  obtain ⟨hterms, hexists⟩ := search_sends_terms client client.ownJournal _
    " a b =c d&100%26\u00e9=1=2" [] hparse rfl
  obtain ⟨sent, hsent⟩ := hexists (by decide +kernel) (Url.printable_of_any (by decide +kernel))
    (by decide +kernel)
  exact ⟨sent, hsent, (hterms sent hsent).1 (by decide +kernel)⟩

/-- A number sign in the first key leaves one part, which has no value. -/
theorem number_sign_in_key_cuts_query :
    let client : Client := ⟨"http://h", none, [], 1⟩
    let call := client.searchRecords client.ownJournal (escape "a#b=1&c=2") []
    (∀ c ∈ "a#b=1&c=2".toList, Url.isUnprintableAscii c = false) ∧
      (terms "a#b=1&c=2").length = 2 ∧
      ∃ sent, call.requests.head? = some sent ∧
        (sent.url.query.map (splitOn '&')).getD [] = ["a".toList] := by
  intro client call
  refine ⟨Url.printable_of_any (by decide +kernel), by decide +kernel, ?_⟩
  have hquery : call.requests.head?.map (fun sent => sent.url.query) = some (some "a".toList) := by
    decide +kernel
  obtain ⟨sent, hsent, hcut⟩ := Option.map_eq_some_iff.mp hquery
  refine ⟨sent, hsent, ?_⟩
  rw [hcut]
  rfl

end QueryBridge.Service.Client
