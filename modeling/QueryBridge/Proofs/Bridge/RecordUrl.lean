import Mathlib.Data.List.Basic
import QueryBridge.Proofs.Bridge.Settlement
import QueryBridge.Proofs.Service.Resource
import QueryBridge.Proofs.Url.Endpoint

/-!
# The URL of a record

A retrieval asks for a path below the collection of records.  Its last segment is the
percent-encoding of the id, which has no slash and is read back, so different ids have different
URLs.

Dots are not encoded.  So the ids `.` and `..` are written as dot segments, which no URL keeps:
the first one asks for the collection itself, and the second one for what lies above it.
-/

namespace QueryBridge.Bridge.Adapter

open QueryBridge.Service (Call Client)
open QueryBridge.Service.Client (recordInner)
open QueryBridge.Text.Percent (decodeBytes encodeChars)
open QueryBridge.Url (IsDotless IsDots IsEndpoint normalPath)

/-! ## Paths -/

/-- What the path of the URL of a record has behind that of the root. -/
def recordPath (id : String) : List Char :=
  if id = "." then "/path/to/retrieve/record".toList
  else if id = ".." then "/path/to/retrieve".toList
  else "/path/to/retrieve/record/".toList ++ encodeChars id.toList

theorem recordPath_of_ne {id : String} (hdot : id ≠ ".") (hdots : id ≠ "..") :
    recordPath id = "/path/to/retrieve/record/".toList ++ encodeChars id.toList := by
  rw [recordPath, if_neg hdot, if_neg hdots]

theorem length_collection : "/path/to/retrieve/record/".toList.length = 25 := by decide

/-- A path with a segment below the collection is longer than 24 characters. -/
theorem record_append_ne {path : List Char} (hpath : path.length < 25) (segment : List Char) :
    "/path/to/retrieve/record/".toList ++ segment ≠ path := by
  rintro rfl
  rw [List.length_append, length_collection] at hpath
  omega

/-- The id of a record, read from the path. -/
def readId? (path : List Char) : Option (List Char) :=
  if path = "/path/to/retrieve/record".toList then some ['.']
  else if path = "/path/to/retrieve".toList then some ['.', '.']
  else Text.Utf8.decode? (decodeBytes (path.drop 25))

theorem readId?_recordPath (id : String) : readId? (recordPath id) = some id.toList := by
  by_cases hdot : id = "."
  · rw [hdot]
    rfl
  by_cases hdots : id = ".."
  · rw [hdots]
    rfl
  · have hsegment : ("/path/to/retrieve/record/".toList ++ encodeChars id.toList).drop 25 =
        encodeChars id.toList := List.drop_left' length_collection
    rw [recordPath_of_ne hdot hdots, readId?, if_neg (record_append_ne (by decide) _),
      if_neg (record_append_ne (by decide) _), hsegment,
      Text.Percent.decode?_encodeChars]

/-- Different ids have different paths. -/
theorem recordPath_injective {first second : String} (h : recordPath first = recordPath second) :
    first = second := by
  have hread := congrArg readId? h
  rw [readId?_recordPath, readId?_recordPath] at hread
  exact String.toList_inj.mp (Option.some.inj hread)

theorem isDots_encodeChars_iff (id : String) :
    IsDots (encodeChars id.toList) ↔ id = "." ∨ id = ".." := by
  have hdots : ∀ dots : String, id.toList = dots.toList ↔ id = dots := fun dots => String.toList_inj
  rw [encodeChars, Url.isDots_encodeExcept_iff (by decide), ← hdots ".", ← hdots ".."]
  rfl

theorem append_recordInner (root : List Char) (id : String) : root ++ '/' :: recordInner id =
    root ++ '/' :: "path/to/retrieve/record".toList ++ '/' :: encodeChars id.toList := by
  have hfolder : '/' :: "path/to/retrieve/record/".toList =
      '/' :: "path/to/retrieve/record".toList ++ ['/'] := by decide
  calc root ++ '/' :: recordInner id
      = root ++ ('/' :: "path/to/retrieve/record".toList ++ ['/'] ++ encodeChars id.toList) :=
        congrArg (fun folder => root ++ (folder ++ encodeChars id.toList)) hfolder
    _ = root ++ '/' :: "path/to/retrieve/record".toList ++ '/' :: encodeChars id.toList := by
        rw [List.append_assoc _ ['/'], List.singleton_append, List.append_assoc]

/-- The dot segments of a record's path, if it has any, are taken away. -/
theorem normalPath_recordInner {root : List Char} (hroot : IsDotless root) (id : String) :
    normalPath (root ++ '/' :: recordInner id) = root ++ recordPath id := by
  have hcollection : IsDotless (root ++ '/' :: "path/to/retrieve/record".toList) :=
    Url.isDotless_append_slash_iff.mpr ⟨hroot, by decide⟩
  by_cases hdot : id = "."
  · have hsegment : '/' :: encodeChars ".".toList = ['/', '.'] := by decide
    rw [hdot, append_recordInner, hsegment, Url.normalPath_append_dot hcollection]
    rfl
  by_cases hdots : id = ".."
  · have hsegment : '/' :: encodeChars "..".toList = ['/', '.', '.'] := by decide
    have hfolder : '/' :: "path/to/retrieve/record".toList =
        '/' :: "path/to/retrieve".toList ++ '/' :: "record".toList := by decide
    have habove : IsDotless (root ++ '/' :: "path/to/retrieve".toList) :=
      Url.isDotless_append_slash_iff.mpr ⟨hroot, by decide⟩
    rw [hdots, append_recordInner, hsegment, hfolder, ← List.append_assoc,
      Url.normalPath_append_dots habove (by decide) (by decide)]
    rfl
  · have hsegment : IsDotless (encodeChars id.toList) := by
      refine Url.isDotless_of_not_mem (Text.Percent.not_mem_encodeChars (by decide) (by decide)) ?_
      rw [isDots_encodeChars_iff, not_or]
      exact ⟨hdot, hdots⟩
    have hall := Url.isDotless_append_slash_iff.mpr ⟨hcollection, hsegment⟩
    rw [append_recordInner, Url.normalPath_of_isDotless hall, ← append_recordInner,
      recordPath_of_ne hdot hdots]
    rfl

/-! ## Retrievals -/

/-- The request passes the checks of a retrieval, and the id that it names is the given one. -/
structure AsksFor (adapter : Adapter) (request : Request) (id : String) : Prop where
  structure_mem : adapter.registry.contains request.structureName = true
  ready : adapter.isReady = true
  id_eq : ∃ query, Template.resolve request.query request.parameters = .ok query ∧
    recordId request.query query = .ok id

/-- An endpoint without slashes at its end. -/
theorem getLast?_dropEndSlashes (endpoint : String) :
    (Text.dropEndSlashes endpoint).toList.getLast? ≠ some '/' := by
  unfold Text.dropEndSlashes Text.dropEndWhile
  rw [String.toList_ofList, List.getLast?_reverse]
  intro hlast
  have hnot := List.head?_dropWhile_not (· == '/') endpoint.toList.reverse
  rw [hlast] at hnot
  cases hnot

section Reachable

variable {endpoint : String} {registry : Registry} {attempts : Int}
  {override : Option Credentials} {actions : List Action} {root : Url} {request : Request}
  {id : String} {replies : List Http.Reply}

/-- The call of a retrieval is one of a client that has shown that its root is good. -/
theorem exists_client_of_asksFor (hroot : IsEndpoint (Text.dropEndSlashes endpoint).toList root)
    (hasks : ((make endpoint registry attempts override).after actions).AsksFor request id)
    (replies : List Http.Reply) :
    ∃ (client : Client) (journal : Service.Journal), client.CanSend Service.checkPath ∧
      Url.parse client.baseUrl.toList = .ok root ∧
      (((make endpoint registry attempts override).after actions).run .retrieve request
        replies).requests =
        (client.fetch journal (Service.recordResource id) replies).requests := by
  obtain ⟨query, hresolve, hid⟩ := hasks.id_eq
  have hresource : Operation.resource .retrieve request.query query =
      .ok (Service.recordResource id) := by
    rw [Operation.resource_retrieve, hid]
    rfl
  obtain ⟨client, hsend, hbaseUrl, hrequests⟩ := exists_client_of_checks rfl hasks.structure_mem
    hasks.ready hresolve hresource replies
  refine ⟨client, _, hsend, ?_, hrequests⟩
  rw [hbaseUrl]
  exact hroot.parse_eq

/-- The path of the first request of a retrieval. -/
theorem path_of_head?_requests (hroot : IsEndpoint (Text.dropEndSlashes endpoint).toList root)
    (hasks : ((make endpoint registry attempts override).after actions).AsksFor request id)
    {sent : Http.Request}
    (hsent : (((make endpoint registry attempts override).after actions).run .retrieve request
      replies).requests.head? = some sent) : sent.url.path = root.path ++ recordPath id := by
  obtain ⟨client, journal, -, hparse, hrequests⟩ := exists_client_of_asksFor hroot hasks replies
  rw [hrequests, Client.head?_requests_fetch_iff] at hsent
  obtain ⟨base, hbase, hurl⟩ := Client.below_of_request hsent hparse
  rw [Client.toList_recordResource] at hurl
  calc sent.url.path
      = normalPath (root.path ++ '/' :: recordInner id) :=
        hroot.path_below (getLast?_dropEndSlashes endpoint) hbase
          (Client.isResourcePath_recordInner id) hurl
    _ = root.path ++ recordPath id := normalPath_recordInner hroot.isDotless_path id

/-- A retrieval whose URL is not too long sends a request. -/
theorem exists_head?_requests (hroot : IsEndpoint (Text.dropEndSlashes endpoint).toList root)
    (hasks : ((make endpoint registry attempts override).after actions).AsksFor request id)
    (hlength : (root.path ++ (Service.recordResource id).toList).length ≤ Url.maxLength) :
    ∃ sent, (((make endpoint registry attempts override).after actions).run .retrieve request
      replies).requests.head? = some sent := by
  obtain ⟨client, journal, hsend, hparse, hrequests⟩ :=
    exists_client_of_asksFor hroot hasks replies
  have hresource := Client.toList_recordResource id
  have hinner := Client.isResourcePath_recordInner id
  rw [hresource] at hlength
  obtain ⟨sent, hsent⟩ := Client.canSend_of_checkPath hsend hparse hroot.isRoot hinner hresource
    (Url.printable_of_isPathSafe hinner) hlength
  refine ⟨sent, ?_⟩
  rw [hrequests, Client.head?_requests_fetch_iff]
  exact hsent

end Reachable

/-- Below an endpoint of the web, without a query, a fragment and dot segments, a retrieval that
passes its checks sends a request, unless its URL is too long.  The path is that of the endpoint,
then that of the collection, then one segment from which the id is read back.  Only the ids `.`
and `..` are no segments: with them the request leaves the collection.  Different ids never have
the same URL. -/
theorem retrieve_asks_for_own_segment (endpoint : String) (registry : Registry) (attempts : Int)
    (override : Option Credentials) (actions : List Action) (root : Url) (request : Request)
    (id : String) (replies : List Http.Reply)
    (hroot : IsEndpoint (Text.dropEndSlashes endpoint).toList root)
    (hasks : ((make endpoint registry attempts override).after actions).AsksFor request id)
    (hlength : (root.path ++ (Service.recordResource id).toList).length ≤ Url.maxLength) :
    let adapter := (make endpoint registry attempts override).after actions
    ∃ sent, (adapter.run .retrieve request replies).requests.head? = some sent ∧
      (id ≠ "." → id ≠ ".." → ∃ segment,
        sent.url.path = root.path ++ "/path/to/retrieve/record/".toList ++ segment ∧
        '/' ∉ segment ∧ Text.Utf8.decode? (decodeBytes segment) = some id.toList) ∧
      (id = "." → sent.url.path = root.path ++ "/path/to/retrieve/record".toList) ∧
      (id = ".." → sent.url.path = root.path ++ "/path/to/retrieve".toList) ∧
      ∀ otherRequest otherId otherReplies other, adapter.AsksFor otherRequest otherId →
        (adapter.run .retrieve otherRequest otherReplies).requests.head? = some other →
        other.url = sent.url → otherId = id := by
  intro adapter
  obtain ⟨sent, hsent⟩ : ∃ sent,
      (adapter.run .retrieve request replies).requests.head? = some sent :=
    exists_head?_requests hroot hasks hlength
  have hpath := path_of_head?_requests hroot hasks hsent
  refine ⟨sent, hsent, ?_, ?_, ?_, ?_⟩
  · intro hdot hdots
    refine ⟨encodeChars id.toList, ?_, ?_, Text.Percent.decode?_encodeChars id⟩
    · rw [hpath, recordPath_of_ne hdot hdots, List.append_assoc]
    · exact Text.Percent.not_mem_encodeChars (by decide) (by decide)
  · rintro rfl
    exact hpath
  · rintro rfl
    exact hpath
  · intro otherRequest otherId otherReplies other hother hsentOther hurl
    have hotherPath := path_of_head?_requests hroot hother hsentOther
    rw [hurl, hpath] at hotherPath
    exact (recordPath_injective (List.append_cancel_left hotherPath)).symm

/-- A slash in an id does not begin a segment. -/
theorem slash_in_id_keeps_segment :
    let adapter := (make "http://h/base/" .default 1 none).after
      [.setProperties [(PropertyMap.usernameKey, some "user"),
        (PropertyMap.passwordKey, some "pass")], .connect [.answer ⟨200, [], []⟩]]
    ∃ sent, (adapter.run .retrieve ⟨"FirstStructure", "id=../a", [], []⟩ []).requests.head? =
        some sent ∧
      ∃ segment,
        sent.url.path = "/base".toList ++ "/path/to/retrieve/record/".toList ++ segment ∧
        '/' ∉ segment ∧ Text.Utf8.decode? (decodeBytes segment) = some "../a".toList := by
  intro adapter
  have hroot : IsEndpoint (Text.dropEndSlashes "http://h/base/").toList
      ⟨"http".toList, [], "h".toList, none, "/base".toList, none, none⟩ :=
    ⟨by decide +kernel, Or.inl rfl, rfl, rfl, by decide +kernel⟩
  have hasks : adapter.AsksFor ⟨"FirstStructure", "id=../a", [], []⟩ "../a" :=
    ⟨by decide +kernel, by decide +kernel, "id=../a", by decide +kernel, by decide +kernel⟩
  obtain ⟨sent, hsent, hsegment, -⟩ := retrieve_asks_for_own_segment "http://h/base/" .default 1
    none _ _ ⟨"FirstStructure", "id=../a", [], []⟩ "../a" [] hroot hasks (by decide +kernel)
  exact ⟨sent, hsent, hsegment (by decide) (by decide)⟩

/-- The ids that are dot segments ask for no record. -/
theorem dot_ids_leave_collection :
    let adapter := (make "http://h" .default 1 none).after
      [.setProperties [(PropertyMap.usernameKey, some "user"),
        (PropertyMap.passwordKey, some "pass")], .connect [.answer ⟨200, [], []⟩]]
    let request := fun id => Request.mk "FirstStructure" ("id=" ++ id) [] []
    let path := fun id =>
      (adapter.run .retrieve (request id) []).requests.head?.map fun sent => sent.url.path
    (∀ id ∈ [".", ".."], adapter.AsksFor (request id) id ∧
      ∀ segment, path id ≠ some ("/path/to/retrieve/record/".toList ++ segment)) ∧
    path "." = some "/path/to/retrieve/record".toList ∧
    path ".." = some "/path/to/retrieve".toList := by
  intro adapter request path
  have hdot : path "." = some "/path/to/retrieve/record".toList := by decide +kernel
  have hdots : path ".." = some "/path/to/retrieve".toList := by decide +kernel
  refine ⟨?_, hdot, hdots⟩
  rw [List.forall_mem_cons, List.forall_mem_singleton, hdot, hdots]
  refine ⟨⟨?_, ?_⟩, ?_, ?_⟩
  · exact ⟨by decide +kernel, by decide +kernel, "id=.", by decide +kernel, by decide +kernel⟩
  · intro segment heq
    exact record_append_ne (by decide) segment (Option.some.inj heq).symm
  · exact ⟨by decide +kernel, by decide +kernel, "id=..", by decide +kernel, by decide +kernel⟩
  · intro segment heq
    exact record_append_ne (by decide) segment (Option.some.inj heq).symm

end QueryBridge.Bridge.Adapter
