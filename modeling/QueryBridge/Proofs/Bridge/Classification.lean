import QueryBridge.Proofs.Bridge.Operation
import QueryBridge.Proofs.Service.Classification
import QueryBridge.Proofs.Service.Retry
import QueryBridge.Runtime.Standard

/-!
# How operations end

An operation whose request was sent ends as its last attempt tells: with the class of the final
response, or without a connection if there was a fault.  A body that nests too deeply is in no
class that is reported.
-/

namespace QueryBridge.Bridge

open QueryBridge.Service (Call Client IsClassified)

namespace Operation

/-- The bodies from which an operation can read its result. -/
def Accepts [Runtime] (operation : Operation) (body : List UInt8) : Prop :=
  match operation with
  | .count => Service.HoldsCount body
  | .retrieve => Service.HoldsRecord body
  | .search => Service.HoldsRecords body

theorem isClassified_read [Runtime] (operation : Operation) (fields : List CodeString)
    (response : Http.Response) :
    IsClassified response (operation.Accepts response.body) (operation.read fields response) := by
  cases operation with
  | count => exact (Client.isClassified_readCount response).map _
  | retrieve => exact (Client.isClassified_readRecord response).map _
  | search => exact (Client.isClassified_readRecords response).map _

end Operation

namespace Adapter

/-- An operation that passes its checks, and whose request can be made, makes attempts, and the
last one decides.  Its response is classified by the status and then by the body, which has a value,
a wrong format or too many levels; a fault, and nothing else, is a missing connection. -/
theorem operations_classify_last_attempt [Runtime] (adapter : Adapter) (operation : Operation)
    (request : Request) (replies : List Http.Reply) (client : Client) (resource : String)
    (htarget : adapter.target operation request = .ok (client, resource))
    (hsend : client.CanSend resource) :
    let call := adapter.run operation request replies
    ∃ attempt, call.attempts.getLast? = some attempt ∧
      (∀ response, attempt.outcome = .ok response →
        IsClassified response (operation.Accepts response.body) call.outcome) ∧
      (call.outcome = .error (.reported .noConnection) ↔
        ∃ fault, attempt.outcome = .error (.fault fault)) := by
  intro call
  obtain ⟨sent, hsent⟩ := hsend
  obtain ⟨houtcome, hattempts⟩ := run_of_target_ok htarget replies
  rw [Client.outcome_fetch_eq_passOn hsent] at houtcome
  rw [Client.attempts_fetch_of_ok hsent] at hattempts
  generalize Http.exchange sent client.attempts replies = exchange at houtcome hattempts
  have hread := Operation.isClassified_read operation request.fields
  refine ⟨exchange.last, ?_, ?_, ?_⟩
  · rw [show call.attempts = _ from hattempts]
    exact List.getLast?_concat
  · intro response hresponse
    rw [show call.outcome = _ from houtcome, Http.Exchange.outcome, hresponse]
    exact hread response
  · rw [show call.outcome = _ from houtcome, Http.Exchange.outcome]
    cases exchange.last.outcome with
    | ok response =>
        refine iff_of_false (hread response).ne_noConnection ?_
        rintro ⟨fault, hfault⟩
        cases hfault
    | error failure => cases failure <;> simp [Client.passOn, Except.bind]

/-- A status of 404 is an error of the service even with a good body; behind a redirect, a list
that holds a number is no list of records; and three thousand opening brackets, which are no
document, are not reported as a wrong format. -/
theorem status_decides_before_body :
    let adapter := (make "http://h" .default 1 none).after
      [.setProperties [(PropertyMap.usernameKey, some "user"),
        (PropertyMap.passwordKey, some "pass")], .connect [.answer ⟨200, [], []⟩]]
    let count := Text.Utf8.encode "\x7b\"count\": \"3\"\x7d".toList
    let records := Text.Utf8.encode "\x7b\"records\": [1]\x7d".toList
    let run := fun operation replies =>
      adapter.run operation ⟨"FirstStructure", "a=b", [], []⟩ replies
    (run .count [.answer ⟨404, [], count⟩]).outcome =
        .error (.reported (.service 404 "/path/to/count/endpoint")) ∧
      (∃ error, (run .search [.answer ⟨302, [("Location", "/moved")], []⟩,
        .answer ⟨200, [], records⟩]).outcome = .error (.reported (.format error))) ∧
      (run .count [.answer ⟨200, [], List.replicate 3000 0x5B⟩]).outcome = .error .tooDeep := by
  intro adapter count records run
  have hclient : adapter.client = some ⟨"http://h", some (.basic "user" "pass"), [], 1⟩ := by
    decide +kernel
  have hstructure : adapter.registry.contains "FirstStructure" = true := by decide +kernel
  have hresolve : Template.resolve "a=b" [] = .ok "a=b" := by decide +kernel
  have hclassified : ∀ {operation client resource replies response},
      adapter.target operation ⟨"FirstStructure", "a=b", [], []⟩ = .ok (client, resource) →
      client.CanSend resource →
      (run operation replies).attempts.getLast?.map Http.Attempt.outcome = some (.ok response) →
      IsClassified response (operation.Accepts response.body) (run operation replies).outcome := by
    intro operation client resource replies response htarget hsend hended
    obtain ⟨attempt, hlast, hclass, -⟩ :=
      operations_classify_last_attempt adapter operation _ replies client resource htarget hsend
    rw [show (run operation replies).attempts.getLast? = _ from hlast] at hended
    exact hclass _ (Option.some.inj hended)
  refine ⟨?_, ?_, ?_⟩
  · generalize hurl : (⟨"http".toList, [], "h".toList, none, "/path/to/count/endpoint".toList,
      some "query=a=b".toList, none⟩ : Url) = url
    have hended : (run .count [.answer ⟨404, [], count⟩]).attempts.getLast?.map
        Http.Attempt.outcome = some (.ok ⟨404, count, url⟩) := by
      rw [← hurl]
      decide +kernel
    have hpath : url.decodedPath = "/path/to/count/endpoint" := by
      rw [← hurl]
      decide +kernel
    rw [← hpath]
    exact (hclassified (target_of_resolve hstructure hclient hresolve) (by decide +kernel)
      hended).service (show 400 ≤ 404 by decide) (show 404 ≠ 401 by decide)
  · have hended : (run .search [.answer ⟨302, [("Location", "/moved")], []⟩,
        .answer ⟨200, [], records⟩]).attempts.getLast?.map
        Http.Attempt.outcome = some (.ok ⟨200, records, "http".toList, [], "h".toList, none,
          "/moved".toList, none, none⟩) := by
      decide +kernel
    refine (hclassified (target_of_resolve hstructure hclient hresolve) (by decide +kernel)
      hended).format (by decide) ?_ (by decide +kernel)
    -- the body is a document, so its fields are known; a number is none of the records
    rintro ⟨fields, items, hfields, hitems, hall⟩
    have hbody : Service.HasFields records [("records", .array [.int 1])] := by
      unfold Service.HasFields
      rfl
    obtain rfl := hfields.unique hbody
    cases hitems
    obtain ⟨record, heq⟩ := hall (.int 1) List.mem_cons_self
    cases heq
  · have hended : (run .count [.answer ⟨200, [], List.replicate 3000 0x5B⟩]).attempts.getLast?.map
        Http.Attempt.outcome = some (.ok ⟨200, List.replicate 3000 0x5B, "http".toList, [],
          "h".toList, none, "/path/to/count/endpoint".toList, some "query=a=b".toList, none⟩) := by
      decide +kernel
    exact (hclassified (target_of_resolve hstructure hclient hresolve) (by decide +kernel)
      hended).tooDeep (by decide) (by decide +kernel)

end Adapter

end QueryBridge.Bridge
