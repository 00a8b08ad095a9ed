import QueryBridge.Proofs.Bridge.Classification
import QueryBridge.Proofs.Count
import QueryBridge.Runtime.Standard

/-!
# What operations return

The final response of an operation decides what it returns: a count as the body states it, or a
page with one record for each object that the body lists, in the order of the list.  A single
item that is no object spoils the whole page, and the error names the first one.
-/

namespace QueryBridge.Bridge

open QueryBridge.Service (Client HasFields IsTooDeep)
open QueryBridge.Text (IsBlankRun)

namespace Adapter

variable {adapter : Adapter} {operation : Operation} {request : Request}
  {replies : List Http.Reply} {attempt : Http.Attempt} {response : Http.Response}
  {fields : Json.Members}

/-- An operation that got a final response returns what it reads there. -/
theorem outcome_run_of_last [Runtime]
    (hlast : (adapter.run operation request replies).attempts.getLast? = some attempt)
    (hresponse : attempt.outcome = .ok response) :
    (adapter.run operation request replies).outcome = operation.read request.fields response := by
  cases htarget : adapter.target operation request with
  | error error =>
      rw [(run_of_target_error htarget replies).2] at hlast
      cases hlast
  | ok target =>
      obtain ⟨client, resource⟩ := target
      obtain ⟨houtcome, hattempts⟩ := run_of_target_ok htarget replies
      rw [hattempts] at hlast
      rw [houtcome]
      cases hsent : client.request resource with
      | error failure =>
          rw [Client.attempts_fetch, hsent] at hlast
          cases hlast
      | ok sent =>
          rw [Client.attempts_fetch_of_ok hsent] at hlast
          rw [Client.outcome_fetch_eq_passOn hsent]
          generalize Http.exchange sent client.attempts replies = exchange at hlast ⊢
          have heq : exchange.last = attempt := by
            rw [Http.Exchange.attempts, List.getLast?_concat] at hlast
            exact Option.some.inj hlast
          rw [Http.Exchange.outcome, heq, hresponse]
          rfl

/-! ## Counts -/

theorem outcome_count_of_last [Runtime]
    (hlast : (adapter.run .count request replies).attempts.getLast? = some attempt)
    (hresponse : attempt.outcome = .ok response) (hstatus : response.status < 400)
    (hbody : HasFields response.body fields) {value : Json.Value}
    (hvalue : Fields.get? fields "count" = some value) :
    (adapter.run .count request replies).outcome =
      match Count.ofValue value with
      | .ok n => .ok (.count ⟨n⟩)
      | .error error => .error (.reported (.format (.count error))) := by
  rw [outcome_run_of_last hlast hresponse, Operation.read,
    Client.readCount_eq hstatus hbody hvalue]
  cases Count.ofValue value with
  | ok n => rfl
  | error error => rfl

/-- A count is read from a natural number or from its decimal digits, with any blanks around
them, and from nothing else; whatever number is read can be a count.  So counting records returns
the count that the body states, or says that the format is wrong. -/
theorem counting_returns_stated_count [Runtime] :
    (∀ value n, Count.ofValue value = .ok n ↔ Count.IsStated value n) ∧
    (∀ value, (∀ n, ¬ Count.IsStated value n) → ∃ error, Count.ofValue value = .error error) ∧
    (∀ (n : Nat) before after, n < 10 ^ 4300 → IsBlankRun before → IsBlankRun after →
      Count.ofValue (.text (String.ofList (before ++ (toString n).toList ++ after))) =
          Count.ofValue (.int n) ∧
        Count.ofValue (.int n) = .ok n) ∧
    ∀ (adapter : Adapter) (request : Request) (replies : List Http.Reply)
      (attempt : Http.Attempt) (response : Http.Response) (fields : Json.Members)
      (value : Json.Value),
      (adapter.run .count request replies).attempts.getLast? = some attempt →
      attempt.outcome = .ok response → response.status < 400 →
      HasFields response.body fields → Fields.get? fields "count" = some value →
        (∀ n, Count.IsStated value n → ∃ count, Count.ofInt n = .ok count ∧
          (adapter.run .count request replies).outcome = .ok (.count count)) ∧
        ((∀ n, ¬ Count.IsStated value n) → ∃ error,
          (adapter.run .count request replies).outcome =
            .error (.reported (.format (.count error)))) := by
  refine ⟨fun value n => Count.ofValue_eq_ok_iff, fun value => Count.exists_error_iff.mpr, ?_, ?_⟩
  · intro n before after hn hbefore hafter
    have hnumber : Count.ofValue (.int n) = .ok n := Count.ofValue_of_isStated (.number n)
    refine ⟨?_, hnumber⟩
    rw [hnumber]
    exact Count.ofValue_of_isStated (Count.isStated_padded hn hbefore hafter)
  · intro adapter request replies attempt response fields value hlast hresponse hstatus hbody
      hvalue
    have houtcome := outcome_count_of_last hlast hresponse hstatus hbody hvalue
    constructor
    · intro n hstated
      refine ⟨⟨n⟩, Count.ofInt_natCast n, ?_⟩
      rw [houtcome, Count.ofValue_of_isStated hstated]
    · intro hnone
      obtain ⟨error, herror⟩ := Count.exists_error_iff.mpr hnone
      exact ⟨error, by rw [houtcome, herror]⟩

/-- Zeros in front and blanks around do not matter, also beyond ASCII; a blank among the digits
does. -/
theorem blank_among_digits_is_refused :
    let adapter := (make "http://h" .default 1 none).after
      [.setProperties [(PropertyMap.usernameKey, some "user"),
        (PropertyMap.passwordKey, some "pass")], .connect [.answer ⟨200, [], []⟩]]
    let counted := fun body => (adapter.run .count ⟨"FirstStructure", "a=b", [], []⟩
      [.answer ⟨200, [], Text.Utf8.encode body⟩]).outcome
    Count.IsStated (.text "\u3000042\n") 42 ∧
      Count.ofValue (.text (String.ofList (['\u3000'] ++ (toString 42).toList ++ ['\n']))) =
        Count.ofValue (.int 42) ∧
      counted "\x7b\"count\": \"\\u3000042\\n\"\x7d".toList = .ok (.count ⟨42⟩) ∧
      ∃ error, counted "\x7b\"count\": \"4 2\"\x7d".toList =
        .error (.reported (.format (.count error))) := by
  intro adapter counted
  obtain ⟨hiff, -, hpadded, hrun⟩ := counting_returns_stated_count
  have hstated : Count.IsStated (.text "\u3000042\n") 42 := (hiff _ 42).mp (by rfl)
  have hother : ∀ n, ¬ Count.IsStated (.text "4 2") n := by
    intro n h
    have hread : Count.ofValue (.text "4 2") = .error (.notInteger (.text "4 2")) := by rfl
    cases hread.symm.trans ((hiff _ n).mpr h)
  have hsmall : ∀ bound, 2 ≤ bound → 42 < 10 ^ bound := fun bound hbound =>
    Nat.lt_of_lt_of_le (by decide : 42 < 10 ^ 2) (Nat.pow_le_pow_right (by decide) hbound)
  have hlast : ∀ body ∈ ["\x7b\"count\": \"\\u3000042\\n\"\x7d",
      "\x7b\"count\": \"4 2\"\x7d"],
      (adapter.run .count ⟨"FirstStructure", "a=b", [], []⟩
        [.answer ⟨200, [], Text.Utf8.encode body.toList⟩]).attempts.getLast?.map
          Http.Attempt.outcome = some (.ok ⟨200, Text.Utf8.encode body.toList, "http".toList, [],
            "h".toList, none, "/path/to/count/endpoint".toList, some "query=a=b".toList,
            none⟩) := by
    decide +kernel
  refine ⟨hstated, ?_, ?_, ?_⟩
  · exact (hpadded 42 ['\u3000'] ['\n'] (hsmall 4300 (by decide))
      (List.forall_mem_singleton.mpr rfl) (List.forall_mem_singleton.mpr rfl)).1
  · obtain ⟨attempt, hattempt, hresponse⟩ :=
      Option.map_eq_some_iff.mp (hlast _ List.mem_cons_self)
    obtain ⟨count, hcount, houtcome⟩ := (hrun _ _ _ attempt _ [("count", .text "\u3000042\n")] _
      hattempt hresponse (by decide) (by unfold HasFields; rfl) rfl).1 42 hstated
    cases hcount
    exact houtcome
  · obtain ⟨attempt, hattempt, hresponse⟩ :=
      Option.map_eq_some_iff.mp (hlast _ (List.mem_cons_of_mem _ List.mem_cons_self))
    exact (hrun _ _ _ attempt _ [("count", .text "4 2")] _ hattempt hresponse (by decide)
      (by unfold HasFields; rfl) rfl).2 hother

/-! ## Pages -/

/-- The index is that of the first item that is no object. -/
structure IsFirstOther (items : List Json.Value) (index : Nat) : Prop where
  other : ∃ item, items[index]? = some item ∧ ∀ record, item ≠ .object record
  earlier : ∀ position < index, ∃ record, items[position]? = some (.object record)

theorem IsFirstOther.unique {items : List Json.Value} {first second : Nat}
    (h : IsFirstOther items first) (h' : IsFirstOther items second) : first = second := by
  have hle : ∀ {first second : Nat}, IsFirstOther items first → IsFirstOther items second →
      second ≤ first := by
    intro first second h h'
    by_contra hlt
    obtain ⟨item, hitem, hother⟩ := h.other
    obtain ⟨record, hrecord⟩ := h'.earlier first (Nat.lt_of_not_le hlt)
    rw [hitem] at hrecord
    exact hother record (Option.some.inj hrecord)
  exact Nat.le_antisymm (hle h' h) (hle h h')

theorem isFirstOther_length (before : List (Json.Members)) {item : Json.Value}
    (hitem : item.fields? = none) (after : List Json.Value) :
    IsFirstOther (before.map .object ++ item :: after) before.length := by
  have hlength : before.length = (before.map Json.Value.object).length := by simp
  constructor
  · refine ⟨item, ?_, ?_⟩
    · rw [hlength, List.getElem?_append_right (Nat.le_refl _), Nat.sub_self]
      rfl
    · rintro record rfl
      cases hitem
  · intro position hposition
    have hinside : position < (before.map Json.Value.object).length := hlength ▸ hposition
    refine ⟨before[position], ?_⟩
    rw [List.getElem?_append_left hinside, List.getElem?_map,
      List.getElem?_eq_getElem hposition]
    rfl

theorem outcome_search_of_last [Runtime]
    (hlast : (adapter.run .search request replies).attempts.getLast? = some attempt)
    (hresponse : attempt.outcome = .ok response) (hstatus : response.status < 400)
    (hbody : HasFields response.body fields) {items : List Json.Value}
    (hitems : Fields.get? fields "records" = some (.array items)) :
    (adapter.run .search request replies).outcome =
      match Client.objects 0 items with
      | .ok records => .ok (.page (RecordList.ofPayloads records request.fields))
      | .error index => .error (.reported (.format (.recordNotObject index))) := by
  rw [outcome_run_of_last hlast hresponse, Operation.read,
    Client.readRecords_eq hstatus hbody hitems]
  cases Client.objects 0 items with
  | ok records => rfl
  | error index => rfl

/-- A search returns one record for each object that the final response lists, in the order of
the list, and says how many there are.  If an item is no object, it returns nothing but the index
of the first such item.  It does neither, and reports nothing, if the body nests too deeply. -/
theorem search_returns_every_record [Runtime] (adapter : Adapter) (request : Request)
    (replies : List Http.Reply) (attempt : Http.Attempt) (response : Http.Response)
    (limit : Nat) (fields : Json.Members) (items : List Json.Value)
    (hlast : (adapter.run .search request replies).attempts.getLast? = some attempt)
    (hresponse : attempt.outcome = .ok response) (hstatus : response.status < 400)
    (hbody : Json.readBytes limit response.body = .ok (.object fields))
    (hitems : Fields.get? fields "records" = some (.array items)) :
    let outcome := (adapter.run .search request replies).outcome
    (IsTooDeep response.body → outcome = .error .tooDeep) ∧
    (¬ IsTooDeep response.body →
      (∀ objects : List Json.Members, items = objects.map .object →
        ∃ page, outcome = .ok (.page page) ∧ page.fields = request.fields ∧
          page.records = objects.map (fun payload => Record.ofPayload payload request.fields) ∧
          page.metadata =
            [("count", toString page.records.length), ("size", toString page.records.length)]) ∧
      ((∃ item ∈ items, ∀ record, item ≠ .object record) →
        ∃ index error, IsFirstOther items index ∧ outcome = .error (.reported error) ∧
          error.label = "FormatError" ∧
          error.message =
            "The REST Service search response contains a non-object record at index " ++
              toString index ++ ".")) := by
  intro outcome
  constructor
  · intro hdeep
    rw [show outcome = _ from outcome_run_of_last hlast hresponse]
    exact (Operation.isClassified_read .search request.fields response).tooDeep hstatus hdeep
  intro hshallow
  -- what some bound admits is read with the runtime's bound as well, or is too deep for it
  have hfields : HasFields response.body fields :=
    (Json.readBytes_of_eq_ok hbody Runtime.readingLevels).resolve_right hshallow
  have houtcome : outcome = _ := outcome_search_of_last hlast hresponse hstatus hfields hitems
  constructor
  · rintro objects rfl
    rw [Client.objects_map_object] at houtcome
    refine ⟨_, houtcome, rfl, rfl, ?_⟩
    simp [RecordList.ofPayloads, RecordList.ofRecords]
  · rintro ⟨item, hitem, hother⟩
    rcases Service.Client.items_cases items with
      ⟨objects, rfl⟩ | ⟨before, first, after, rfl, hfirst⟩
    · obtain ⟨record, -, rfl⟩ := List.mem_map.mp hitem
      exact absurd rfl (hother record)
    · rw [Client.objects_append_cons before hfirst, Nat.zero_add] at houtcome
      exact ⟨before.length, _, isFirstOther_length before hfirst after, houtcome, rfl, rfl⟩

/-- Two objects give two records, limited to the requested fields; behind two objects, a number
is the first of two items that spoil the page. -/
theorem number_among_records_is_refused :
    let adapter := (make "http://h" .default 1 none).after
      [.setProperties [(PropertyMap.usernameKey, some "user"),
        (PropertyMap.passwordKey, some "pass")], .connect [.answer ⟨200, [], []⟩]]
    let searched := fun body => (adapter.run .search ⟨"FirstStructure", "a=b", [], ["b", "a"]⟩
      [.answer ⟨200, [], Text.Utf8.encode body⟩]).outcome
    (∃ page, searched
        "\x7b\"records\": [\x7b\"a\": 1, \"c\": 2\x7d, \x7b\"b\": []\x7d]\x7d".toList =
          .ok (.page page) ∧
      page.records = [⟨[("b", .null), ("a", .int 1)]⟩, ⟨[("b", .text "[]"), ("a", .null)]⟩] ∧
      page.metadata = [("count", "2"), ("size", "2")]) ∧
    ∃ error, searched "\x7b\"records\": [\x7b\x7d, \x7b\x7d, 1, null]\x7d".toList =
        .error (.reported error) ∧
      error.message =
        "The REST Service search response contains a non-object record at index 2." := by
  intro adapter searched
  have hlast : ∀ body ∈
      ["\x7b\"records\": [\x7b\"a\": 1, \"c\": 2\x7d, \x7b\"b\": []\x7d]\x7d",
      "\x7b\"records\": [\x7b\x7d, \x7b\x7d, 1, null]\x7d"],
      (adapter.run .search ⟨"FirstStructure", "a=b", [], ["b", "a"]⟩
        [.answer ⟨200, [], Text.Utf8.encode body.toList⟩]).attempts.getLast?.map
          Http.Attempt.outcome = some (.ok ⟨200, Text.Utf8.encode body.toList, "http".toList, [],
            "h".toList, none, "/path/to/search/records".toList, some "a=b".toList, none⟩) := by
    decide +kernel
  constructor
  · obtain ⟨attempt, hattempt, hresponse⟩ :=
      Option.map_eq_some_iff.mp (hlast _ List.mem_cons_self)
    obtain ⟨page, hpage, -, hrecords, hmetadata⟩ := ((search_returns_every_record adapter _ _
      attempt _ 4
      [("records", .array [.object [("a", .int 1), ("c", .int 2)], .object [("b", .array [])]])] _
      hattempt hresponse (by decide) rfl rfl).2 (by decide +kernel)).1
        [[("a", .int 1), ("c", .int 2)], [("b", .array [])]] rfl
    rw [hrecords] at hmetadata
    exact ⟨page, hpage, hrecords, hmetadata⟩
  · obtain ⟨attempt, hattempt, hresponse⟩ :=
      Option.map_eq_some_iff.mp (hlast _ (List.mem_cons_of_mem _ List.mem_cons_self))
    obtain ⟨index, error, hfirst, houtcome, -, hmessage⟩ := ((search_returns_every_record adapter
      _ _ attempt _ 3 [("records", .array [.object [], .object [], .int 1, .null])] _ hattempt
      hresponse (by decide) rfl rfl).2 (by decide +kernel)).2
        ⟨.int 1, by simp, nofun⟩
    obtain rfl : index = 2 := hfirst.unique (isFirstOther_length [[], []] rfl [.null])
    exact ⟨error, houtcome, hmessage⟩

end Adapter

end QueryBridge.Bridge
