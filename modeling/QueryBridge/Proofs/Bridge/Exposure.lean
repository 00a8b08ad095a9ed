import Mathlib.Data.Nat.Digits.Defs
import QueryBridge.Proofs.Bridge.Masking
import QueryBridge.Proofs.Bridge.Run
import QueryBridge.Proofs.Service.Records
import QueryBridge.Runtime.Standard

/-!
# What the records of an adapter give away

The redactor masks texts, and numbers are not masked.  The records of an adapter hold two: the
status of an answer and the count that is returned.  So a secret that is held shows in a record
only if it consists of digits that occur in one of them; and since every count that is returned
is recorded, a password of digits does show in it.
-/

namespace QueryBridge.Bridge

open QueryBridge.Log (IsTextBut isTextBut_text isTextBut_int)
open QueryBridge.Service (Call Client IsStatus Journal)

/-- The replies of the service to an action. -/
def Action.replies : Action → List Http.Reply
  | connect replies | verify replies | operate _ _ replies => replies
  | setProperties _ | listProperties => []

/-- The count that is returned, if it is one. -/
def Returned.count? : Returned → Option Nat
  | count found => some found.value
  | _ => none

namespace Adapter

variable {adapter : Adapter} {replies : List Http.Reply}

/-! ## Connections -/

theorem isTextual_journal (adapter : Adapter) : adapter.journal.IsTextual :=
  List.forall_mem_singleton.mpr (isTextBut_text (by decide) adapterName)

theorem isAnswered_of_check {client : Client} {journal : Journal} {status : Nat}
    (h : ((client.checkCredentials journal replies).andThen checkRefused).outcome = .ok status) :
    Http.IsAnswered replies status := by
  rw [Call.outcome_andThen, Client.checkCredentials, Call.outcome_andThen] at h
  cases hresponse : (client.fetch journal Service.checkPath replies).outcome with
  | error failure =>
      rw [hresponse] at h
      cases h
  | ok response =>
      rw [hresponse] at h
      dsimp only [Except.bind, checkRefused] at h
      split at h
      · cases h
      · cases h
        exact Client.isAnswered_of_fetch hresponse

theorem isTextBut_connectWith (adapter : Adapter) (authorization : Authorization)
    (replies : List Http.Reply) :
    ∀ record ∈ (adapter.connectWith authorization replies).records, ∀ extra ∈ record.extras,
      IsTextBut (IsStatus replies) extra := by
  have hjournal := isTextual_journal adapter
  unfold connectWith
  dsimp only
  split
  · exact fun _ hrecord => absurd hrecord List.not_mem_nil
  · next client _ =>
    rw [List.forall_mem_cons]
    constructor
    · exact hjournal.record (List.forall_mem_singleton.mpr (isTextBut_text (by decide) _)) _ _
    · refine Call.forall_records_log _
        (Client.isTextBut_fetch hjournal client Service.checkPath replies) ?_
      intro status houtcome
      refine hjournal.record (List.forall_mem_singleton.mpr ?_) _ _
      exact isTextBut_int (by decide) ⟨rfl, status, rfl, isAnswered_of_check houtcome⟩

/-! ## Operations -/

/-- The number is the count that an outcome holds, under its name. -/
def IsCount (outcome : Except Failure Returned) (name : String) (number : Int) : Prop :=
  name = "result" ∧ ∃ count : Nat, number = count ∧ outcome = .ok (.count ⟨count⟩)

/-- The numbers that an operation may record. -/
def IsRecordedNumber (replies : List Http.Reply) (outcome : Except Failure Returned)
    (name : String) (number : Int) : Prop :=
  IsStatus replies name number ∨ IsCount outcome name number

variable {request : Request} {operation : String} {prepared : Prepared}

theorem isTextual_of_prepare (h : adapter.prepare request operation = .ok prepared) :
    prepared.journal.IsTextual := by
  unfold prepare at h
  split at h
  · cases h
  split at h
  · cases h
  split at h
  · cases h
  · cases h
    refine (isTextual_journal adapter).bind ?_
    rw [List.forall_mem_cons]
    exact ⟨isTextBut_text (by decide) _,
      List.forall_mem_singleton.mpr (isTextBut_text (by decide) _)⟩

/-- An operation that passes its checks makes one record before it runs. -/
theorem operate_of_prepare {α : Type} (h : adapter.prepare request operation = .ok prepared)
    (run : Prepared → List Http.Reply → Call α) :
    adapter.operate request operation replies run =
      { run prepared replies with
        records := prepared.journal.record Log.Level.debug "Resolved query"
          [("query", .text prepared.query)] :: (run prepared replies).records } := by
  unfold operate
  rw [h]

theorem operate_of_prepare_error {α : Type} {error : Error}
    (h : adapter.prepare request operation = .error error)
    (run : Prepared → List Http.Reply → Call α) :
    adapter.operate request operation replies run =
      Call.silent (.error (.reported error)) replies := by
  unfold operate
  rw [h]

/-- The records of an operation are as those of what it does after its checks. -/
theorem forall_records_operate {α : Type} {run : Prepared → List Http.Reply → Call α}
    {numbers : String → Int → Prop}
    (h : ∀ prepared, adapter.prepare request operation = .ok prepared →
      prepared.journal.IsTextual → ∀ record ∈ (run prepared replies).records,
        ∀ extra ∈ record.extras, IsTextBut numbers extra) :
    ∀ record ∈ (adapter.operate request operation replies run).records,
      ∀ extra ∈ record.extras, IsTextBut numbers extra := by
  cases hprepare : adapter.prepare request operation with
  | error error =>
      rw [operate_of_prepare_error hprepare]
      exact fun _ hrecord => absurd hrecord List.not_mem_nil
  | ok prepared =>
      have hjournal := isTextual_of_prepare hprepare
      rw [operate_of_prepare hprepare, List.forall_mem_cons]
      constructor
      · exact hjournal.record (List.forall_mem_singleton.mpr (isTextBut_text (by decide) _)) _ _
      · exact h prepared hprepare hjournal

/-- A count returns what its call returns. -/
theorem outcome_run_count [Runtime] (h : adapter.prepare request "count" = .ok prepared) :
    (adapter.run .count request replies).outcome =
      (prepared.client.fetchCount adapter.journal (Query.escape prepared.query) replies).outcome.map
        fun value => .count ⟨value⟩ := by
  unfold run count
  dsimp only
  rw [operate_of_prepare h]
  simp only [Call.outcome_andThen, Call.outcome_log]
  generalize (prepared.client.fetchCount adapter.journal (Query.escape prepared.query)
    replies).outcome = outcome
  cases outcome <;> rfl

theorem isTextBut_run [Runtime] (adapter : Adapter) (operation : Operation) (request : Request)
    (replies : List Http.Reply) :
    ∀ record ∈ (adapter.run operation request replies).records, ∀ extra ∈ record.extras,
      IsTextBut (IsRecordedNumber replies (adapter.run operation request replies).outcome)
        extra := by
  generalize houtcome : (adapter.run operation request replies).outcome = outcome
  have hfetch : ∀ (client : Client) (resource : String),
      ∀ record ∈ (client.fetch adapter.journal resource replies).records,
        ∀ extra ∈ record.extras, IsTextBut (IsRecordedNumber replies outcome) extra := by
    intro client resource record hrecord extra hextra
    have hstatus :=
      Client.isTextBut_fetch (isTextual_journal adapter) client resource replies record hrecord
    exact (hstatus extra hextra).mono fun _ _ => Or.inl
  cases operation with
  | count =>
      show ∀ record ∈ (adapter.count request replies).records, _
      refine forall_records_operate fun prepared hprepare hjournal => ?_
      rw [Call.records_andThen]
      refine Call.forall_records_log _ (hfetch prepared.client _) fun value hvalue => ?_
      refine hjournal.record (List.forall_mem_singleton.mpr ?_) _ _
      refine isTextBut_int (by decide) (Or.inr ⟨rfl, value, rfl, ?_⟩)
      rw [← houtcome, outcome_run_count hprepare, hvalue]
      rfl
  | retrieve =>
      show ∀ record ∈ (adapter.retrieve request replies).records, _
      refine forall_records_operate fun prepared hprepare hjournal => ?_
      dsimp only
      split
      · exact fun _ hrecord => absurd hrecord List.not_mem_nil
      · rw [Call.records_andThen]
        refine Call.forall_records_log _ (hfetch prepared.client _) fun value hvalue => ?_
        exact hjournal.record (List.forall_mem_singleton.mpr (isTextBut_text (by decide) _)) _ _
  | search =>
      show ∀ record ∈ (adapter.search request replies).records, _
      refine forall_records_operate fun prepared hprepare hjournal => ?_
      refine Call.forall_records_log _ (hfetch prepared.client _) fun value hvalue => ?_
      exact hjournal.record (List.forall_mem_singleton.mpr (isTextBut_text (by decide) _)) _ _

/-- A count that is returned is recorded as it is. -/
theorem exists_record_of_count [Runtime] {count : Nat}
    (h : (adapter.run .count request replies).outcome = .ok (.count ⟨count⟩)) :
    ∃ record ∈ (adapter.run .count request replies).records,
      ("result", .int count) ∈ record.extras := by
  cases hprepare : adapter.prepare request "count" with
  | error error =>
      have hrun : (adapter.run .count request replies).outcome = .error (.reported error) := by
        unfold run Adapter.count
        dsimp only
        rw [operate_of_prepare_error hprepare]
        rfl
      cases hrun.symm.trans h
  | ok prepared =>
      rw [outcome_run_count hprepare] at h
      cases hvalue : (prepared.client.fetchCount adapter.journal (Query.escape prepared.query)
          replies).outcome with
      | error failure =>
          rw [hvalue] at h
          cases h
      | ok value =>
          rw [hvalue] at h
          cases h
          refine ⟨prepared.journal.record Log.Level.debug "Count resolved" [("result", .int count)],
            ?_, ?_⟩
          · show _ ∈ (adapter.count request replies).records
            unfold Adapter.count
            rw [operate_of_prepare hprepare]
            refine List.mem_cons_of_mem _ ?_
            dsimp only [Call.andThen]
            unfold Call.log
            rw [hvalue]
            exact List.mem_append_right _ (List.mem_singleton_self _)
          · exact List.mem_map.mpr ⟨("result", .int count), Fields.mem_insert_self _ _ _, rfl⟩

/-! ## Actions -/

theorem isTextBut_unmaskedRecords [Runtime] (adapter : Adapter) (action : Action) :
    ∀ record ∈ adapter.unmaskedRecords action, ∀ extra ∈ record.extras,
      IsTextBut (IsRecordedNumber action.replies (adapter.perform action).2.outcome) extra := by
  have hconnect : ∀ replies outcome, ∀ record ∈ adapter.unmaskedRecords (.connect replies),
      ∀ extra ∈ record.extras, IsTextBut (IsRecordedNumber replies outcome) extra := by
    intro replies outcome record hrecord extra hextra
    unfold unmaskedRecords at hrecord
    cases hauthorization : adapter.authorization with
    | error error =>
        rw [hauthorization] at hrecord
        exact absurd hrecord List.not_mem_nil
    | ok authorization =>
        rw [hauthorization] at hrecord
        have hstatus :=
          isTextBut_connectWith adapter.clearSecrets authorization replies record hrecord
        exact (hstatus extra hextra).mono fun _ _ => Or.inl
  cases action with
  | setProperties values => exact fun _ hrecord => absurd hrecord List.not_mem_nil
  | listProperties => exact fun _ hrecord => absurd hrecord List.not_mem_nil
  | connect replies => exact hconnect replies _
  | verify replies => exact hconnect replies _
  | operate operation request replies =>
      have houtcome : (adapter.perform (.operate operation request replies)).2.outcome =
          (adapter.clearSecrets.run operation request replies).outcome := by
        show (adapter.run operation request replies).outcome = _
        rw [run_eq_mask]
        rfl
      rw [houtcome]
      exact isTextBut_run adapter.clearSecrets operation request replies

theorem isProper_redactor_after [Runtime] (endpoint : String) (registry : Registry) (attempts : Int)
    (override : Option Credentials) (actions : List Action) :
    ((make endpoint registry attempts override).after actions).redactor.IsProper := by
  induction actions using List.reverseRecOn with
  | nil => exact Log.Redactor.isProper_empty
  | append_singleton actions action ih =>
      rw [after_concat, redactor_perform]
      exact ih.add _

theorem eq_ok_count_iff {outcome : Except Failure Returned} {count : Nat} :
    outcome = .ok (.count ⟨count⟩) ↔ outcome.toOption.bind Returned.count? = some count := by
  cases outcome with
  | error failure => simp [Except.toOption]
  | ok returned =>
      cases returned with
      | count found =>
          obtain ⟨value⟩ := found
          simp [Except.toOption, Returned.count?]
      | _ => simp [Except.toOption, Returned.count?]

/-- Only a count returns a count. -/
theorem exists_record_of_perform [Runtime] {action : Action} {count : Nat}
    (h : (adapter.perform action).2.outcome = .ok (.count ⟨count⟩)) :
    ∃ record ∈ (adapter.perform action).2.records, ("result", .int count) ∈ record.extras := by
  have hread : ∀ {α : Type} (outcome : Except Failure α) (give : α → Returned),
      (∀ value, give value ≠ .count ⟨count⟩) →
        (outcome.bind fun value => .ok (give value)) ≠ .ok (.count ⟨count⟩) := by
    intro α outcome give hgive heq
    cases outcome with
    | error failure => cases heq
    | ok value => exact hgive value (Except.ok.inj heq)
  cases action with
  | setProperties values => cases h
  | listProperties => cases h
  | connect replies => exact absurd h (hread _ (fun _ => .nothing) nofun)
  | verify replies => exact absurd h (hread _ .verification nofun)
  | operate operation request replies =>
      cases operation with
      | count => exact exists_record_of_count h
      | retrieve => exact absurd h (hread _ .record nofun)
      | search => exact absurd h (hread _ .page nofun)

/-- A number that shows a secret is not small. -/
theorem thousand_le_of_infix {secret : CodeString} {number : Nat}
    (hlong : Log.Redactor.minLength ≤ secret.length)
    (h : secret.codes <:+: (Log.showValue (.int number)).codes) : 1000 ≤ number := by
  by_contra hsmall
  have hdigits : number.repr.length ≤ 3 := Nat.repr_length number 3 (by decide) (by omega)
  have hlength : secret.length ≤ (CodeString.text number.repr).length := h.length_le
  rw [CodeString.length_text] at hlength
  unfold Log.Redactor.minLength at hlong
  omega

/-- A secret that is held, and has no star, does not show in a record but as a number: either
within the status of an answer, which has four digits at least, or within the count that the
action returns.  Every count that is returned is recorded. -/
theorem records_show_secrets_in_numbers_only [Runtime] (endpoint : String) (registry : Registry)
    (attempts : Int) (override : Option Credentials) (actions : List Action) (action : Action) :
    let performed := ((make endpoint registry attempts override).after actions).perform action
    (∀ record ∈ performed.2.records, ∀ secret ∈ performed.1.redactor.secrets,
      Log.star ∉ secret.codes →
      ¬ secret.codes <:+: record.message.codes ∧
      ∀ extra ∈ record.extras, secret.codes <:+: (Log.showValue extra.2).codes →
        (extra.1 = "status_code" ∧ ∃ answer, .answer answer ∈ action.replies ∧
          extra.2 = .int answer.status ∧ 1000 ≤ answer.status) ∨
        extra.1 = "result" ∧ ∃ count : Nat, extra.2 = .int count ∧
          performed.2.outcome = .ok (.count ⟨count⟩)) ∧
    ∀ count : Nat, performed.2.outcome = .ok (.count ⟨count⟩) →
      ∃ record ∈ performed.2.records, ("result", .int count) ∈ record.extras := by
  intro performed
  refine ⟨?_, fun count hcount => exists_record_of_perform hcount⟩
  intro record hrecord secret hheld hstars
  have hproper : performed.1.redactor.IsProper := by
    have hafter := isProper_redactor_after endpoint registry attempts override (actions ++ [action])
    rw [after_concat] at hafter
    exact hafter
  have hlong := hproper secret hheld
  rw [records_perform] at hrecord
  obtain ⟨unmasked, hunmasked, rfl⟩ := List.mem_map.mp hrecord
  refine ⟨hproper.not_infix_redact hheld hstars unmasked.message, ?_⟩
  intro extra hextra hshown
  obtain ⟨number, hnumber, hallowed⟩ := Log.exists_number_of_infix hproper
    (isTextBut_unmaskedRecords _ action unmasked hunmasked) hheld hstars hextra hshown
  rcases hallowed with ⟨hname, status, rfl, hanswered⟩ | ⟨hname, count, rfl, hreturned⟩
  · rw [hnumber] at hshown
    have hlarge := thousand_le_of_infix hlong hshown
    rcases hanswered with rfl | ⟨answer, hanswer, rfl⟩
    · omega
    · exact Or.inl ⟨hname, answer, hanswer, hnumber, hlarge⟩
  · exact Or.inr ⟨hname, count, hnumber, hreturned⟩

/-- A password of digits is masked in the message, but not in the count. -/
theorem digits_show_in_count :
    let adapter := (make "http://h" .default 1 none).after
      [.setProperties [("Username", some "user"), ("Password", some "2024")],
        .connect [.answer ⟨200, [], []⟩]]
    let performed := adapter.perform (.operate .count ⟨"FirstStructure", "a=b", [], []⟩
      [.answer ⟨200, [], Text.Utf8.encode "\x7b\"count\":120245\x7d".toList⟩])
    ∃ record ∈ performed.2.records, ¬ (CodeString.text "2024").codes <:+: record.message.codes ∧
      ∃ extra ∈ record.extras, (CodeString.text "2024").codes <:+: (Log.showValue extra.2).codes ∧
        ∃ count : Nat, extra.2 = .int count ∧ performed.2.outcome = .ok (.count ⟨count⟩) := by
  intro adapter performed
  obtain ⟨honly, hrecorded⟩ := records_show_secrets_in_numbers_only "http://h" .default 1 none
    [.setProperties [("Username", some "user"), ("Password", some "2024")],
      .connect [.answer ⟨200, [], []⟩]]
    (.operate .count ⟨"FirstStructure", "a=b", [], []⟩
      [.answer ⟨200, [], Text.Utf8.encode "\x7b\"count\":120245\x7d".toList⟩])
  obtain ⟨record, hrecord, hextra⟩ := hrecorded 120245 (eq_ok_count_iff.mpr (by decide +kernel))
  have hheld : CodeString.text "2024" ∈ performed.1.redactor.secrets := by decide +kernel
  have hshown :
      (CodeString.text "2024").codes <:+: (Log.showValue (.int (120245 : Nat))).codes := by
    decide
  obtain ⟨hmessage, hnumbers⟩ := honly record hrecord "2024" hheld (by decide)
  refine ⟨record, hrecord, hmessage, _, hextra, hshown, ?_⟩
  rcases hnumbers _ hextra hshown with ⟨hname, -⟩ | ⟨-, hcount⟩
  · exact absurd hname (by decide)
  · exact hcount

/-- The service counts as many records as the password says, and the log shows it. -/
theorem count_shows_password :
    let adapter := (make "http://rest.example.com" .default 1 none).after
      [.setProperties [("Username", some "alice"), ("Password", some "2024")], .connect []]
    let performed := adapter.perform (.operate .count ⟨"FirstStructure", "name=x", [], []⟩
      [.answer ⟨200, [], Text.Utf8.encode "\x7b\"count\":2024\x7d".toList⟩])
    (∀ secret ∈ performed.1.redactor.secrets, Log.star ∉ secret.codes) ∧
      ¬ ∀ record ∈ performed.2.records, ∀ secret ∈ performed.1.redactor.secrets,
        ¬ secret.codes <:+: record.message.codes ∧
          ∀ extra ∈ record.extras, ¬ secret.codes <:+: (Log.showValue extra.2).codes := by
  intro adapter performed
  refine ⟨by decide +kernel, fun hhidden => ?_⟩
  obtain ⟨record, hrecord, hextra⟩ : ∃ record ∈ performed.2.records,
      ("result", .int (2024 : Nat)) ∈ record.extras :=
    exists_record_of_perform (eq_ok_count_iff.mpr (by decide +kernel))
  have hheld : CodeString.text "2024" ∈ performed.1.redactor.secrets := by decide +kernel
  have hshown : (CodeString.text "2024").codes <:+: (Log.showValue (.int (2024 : Nat))).codes := by
    decide
  exact (hhidden record hrecord "2024" hheld).2 _ hextra hshown

end Adapter

end QueryBridge.Bridge
