import QueryBridge.Proofs.Bridge.Settlement
import QueryBridge.Proofs.Query.Form
import QueryBridge.Proofs.Service.Resource

/-!
# The URL of a count

A count puts the escaped query behind the name of a parameter of its URL.  The query is not
escaped once more for this place, so the parameter ends at its first ampersand: it has the first
term, and every term behind it is a parameter of its own.
-/

namespace QueryBridge.Service.Client

open QueryBridge.Query (escape terms)
open QueryBridge.Url (isQuerySafe resourceText)

variable {client : Client} {root : Url} {query : String} {sent : Http.Request}

/-! ## Requests for counts -/

/-- The query of the URL of a count, as it is written. -/
def countQuery (escapedQuery : String) : List Char :=
  "query=".toList ++ escapedQuery.toList

theorem isQuerySafe_of_mem_countQuery (hkeys : ∀ term ∈ terms query, term.HasPlainKey) :
    ∀ c ∈ countQuery (escape query), isQuerySafe c = true := by
  rw [countQuery, List.forall_mem_append]
  exact ⟨List.all_eq_true.mp (by decide), Query.isQuerySafe_of_mem_escape hkeys⟩

/-- Nothing of the query is encoded or cut off. -/
theorem query_of_request_count (hparse : Url.parse client.baseUrl.toList = .ok root)
    (hquery : root.query = none) (hkeys : ∀ term ∈ terms query, term.HasPlainKey)
    (h : client.request (countResource (escape query)) = .ok sent) :
    sent.url.query = some (countQuery (escape query)) := by
  have hroot : root.IsRoot := .of_parse hparse hquery
  obtain ⟨base, hbase, hurl⟩ := below_of_request h hparse
  rw [toList_countResource] at hurl
  have hsent := (Url.below_eq_ok (hroot.toBase hbase) isResourcePath_countInner hurl).1
  rw [hsent, Option.map_some, ← countQuery]
  exact congrArg some (Url.sentQuery_of_isQuerySafe (isQuerySafe_of_mem_countQuery hkeys))

theorem canSend_count (hsend : client.CanSend checkPath)
    (hparse : Url.parse client.baseUrl.toList = .ok root) (hquery : root.query = none)
    (hkeys : ∀ term ∈ terms query, term.HasPlainKey)
    (hlength : (root.path ++ (countResource (escape query)).toList).length ≤ Url.maxLength) :
    client.CanSend (countResource (escape query)) := by
  have hresource := toList_countResource (escape query)
  rw [← countQuery] at hresource
  have hsafe := isQuerySafe_of_mem_countQuery hkeys
  have htext : ∀ c ∈ resourceText countInner (some (countQuery (escape query))),
      isQuerySafe c = true := by
    have hpath : ∀ c ∈ '/' :: countInner, isQuerySafe c = true := fun c hc =>
      Url.isQuerySafe_of_isPathSafe (isResourcePath_countInner.safe_cons c hc)
    have hquestion : ∀ c ∈ '?' :: countQuery (escape query), isQuerySafe c = true :=
      List.forall_mem_cons.mpr ⟨by decide, hsafe⟩
    exact List.forall_mem_append.mpr ⟨hpath, hquestion⟩
  refine canSend_of_checkPath hsend hparse (.of_parse hparse hquery) isResourcePath_countInner
    hresource (fun c hc => Url.not_isUnprintableAscii_of_isSafe (htext c hc)) ?_
  rw [Option.map_some, Text.Percent.encodeExcept_of_isSafe hsafe, ← hresource]
  exact hlength

end QueryBridge.Service.Client

namespace QueryBridge.Bridge.Adapter

open QueryBridge.Query (escape terms termsText)
open QueryBridge.Service (Client)

/-- The parameters in the query of a URL. -/
def urlParameters (url : Url) : List (String × String) :=
  (url.query.map Text.Form.parameters).getD []

/-- Below an endpoint without a query, a count whose keys need no encoding sends the first term of
its query in the parameter with the name `query`, and every other term as a parameter of its own.
So all terms are in the one parameter exactly if there is one.  The count sends a request, unless
its URL is too long. -/
theorem count_sends_later_terms_apart (endpoint : String) (registry : Registry) (attempts : Int)
    (override : Option Credentials) (actions : List Action) (root : Url) (request : Request)
    (query : String) (first : Query.Term) (others : List Query.Term) (replies : List Http.Reply)
    (hparse : Url.parse (Text.dropEndSlashes endpoint).toList = .ok root)
    (hquery : root.query = none)
    (hstructure : ((make endpoint registry attempts override).after actions).registry.contains
      request.structureName = true)
    (hready : ((make endpoint registry attempts override).after actions).isReady = true)
    (hresolve : Template.resolve request.query request.parameters = .ok query)
    (hterms : terms query = first :: others)
    (hkeys : ∀ term ∈ terms query, term.HasPlainKey) :
    let adapter := (make endpoint registry attempts override).after actions
    let requests := (adapter.run .count request replies).requests
    (∀ sent, requests.head? = some sent →
      urlParameters sent.url =
        ("query", first.text) :: others.map (fun term => (term.key, term.value)) ∧
      (urlParameters sent.url = [("query", termsText query)] ↔ others = [])) ∧
    ((root.path ++ (Service.countResource (escape query)).toList).length ≤ Url.maxLength →
      ∃ sent, requests.head? = some sent) := by
  intro adapter requests
  have hresource : Operation.resource .count request.query query =
      .ok (Service.countResource (escape query)) := rfl
  obtain ⟨client, hsend, hbaseUrl, hrequests⟩ :=
    exists_client_of_checks rfl hstructure hready hresolve hresource replies
  have hclient : Url.parse client.baseUrl.toList = .ok root := by
    rw [hbaseUrl]
    exact hparse
  have hhead : ∀ sent, requests.head? = some sent ↔
      client.request (Service.countResource (escape query)) = .ok sent := by
    intro sent
    rw [← Client.head?_requests_fetch_iff client adapter.journal _ replies, ← hrequests]
  constructor
  · intro sent hsent
    have hparameters : urlParameters sent.url =
        ("query", first.text) :: others.map fun term => (term.key, term.value) := by
      rw [urlParameters, Client.query_of_request_count hclient hquery hkeys ((hhead sent).mp hsent)]
      exact Query.parameters_query_escape hterms hkeys
    refine ⟨hparameters, ?_⟩
    rw [hparameters, List.cons_eq_cons, List.map_eq_nil_iff]
    refine ⟨And.right, fun hothers => ⟨?_, hothers⟩⟩
    rw [termsText, hterms, hothers]
    rfl
  · intro hlength
    obtain ⟨sent, hsent⟩ := Client.canSend_count hsend hclient hquery hkeys hlength
    exact ⟨sent, (hhead sent).mpr hsent⟩

/-- Whatever is in its value, a single term is the whole parameter. -/
theorem single_term_is_sent_whole :
    let adapter := (make "http://h" .default 1 none).after
      [.setProperties [(PropertyMap.usernameKey, some "user"),
        (PropertyMap.passwordKey, some "pass")], .connect [.answer ⟨200, [], []⟩]]
    let request : Request := ⟨"FirstStructure", "name=a=b c+%23\u00e9", [], []⟩
    ∃ sent, (adapter.run .count request []).requests.head? = some sent ∧
      urlParameters sent.url = [("query", "name=a=b c+%23\u00e9")] := by
  intro adapter request
  have hparse : Url.parse (Text.dropEndSlashes "http://h").toList =
      .ok ⟨"http".toList, [], "h".toList, none, [], none, none⟩ := by decide +kernel
  have hstructure : adapter.registry.contains request.structureName = true := by decide +kernel
  have hready : adapter.isReady = true := by decide +kernel
  have hresolve : Template.resolve request.query request.parameters = .ok request.query := by
    decide +kernel
  have hterms : terms request.query = [⟨"name", "a=b c+%23\u00e9"⟩] := by decide +kernel
  have hkeys : ∀ term ∈ terms request.query, term.HasPlainKey := by
    rw [hterms, List.forall_mem_singleton]
    decide
  obtain ⟨hparameters, hexists⟩ := count_sends_later_terms_apart "http://h" .default 1 none _ _
    request request.query _ [] [] hparse rfl hstructure hready hresolve hterms hkeys
  obtain ⟨sent, hsent⟩ := hexists (by decide +kernel)
  refine ⟨sent, hsent, ?_⟩
  rw [(hparameters sent hsent).2.mpr rfl]
  decide +kernel

/-- The second of two terms is not in the parameter of the query. -/
theorem second_term_is_own_parameter :
    let adapter := (make "http://h" .default 1 none).after
      [.setProperties [(PropertyMap.usernameKey, some "user"),
        (PropertyMap.passwordKey, some "pass")], .connect [.answer ⟨200, [], []⟩]]
    let request : Request := ⟨"FirstStructure", "name=x&city=y", [], []⟩
    termsText request.query = "name=x&city=y" ∧
      (adapter.run .count request []).requests.head?.map (fun sent => urlParameters sent.url) =
        some [("query", "name=x"), ("city", "y")] := by
  decide +kernel

end QueryBridge.Bridge.Adapter
