import QueryBridge.Proofs.Fields
import QueryBridge.Proofs.Http.Answer
import QueryBridge.Proofs.Log.Coverage
import QueryBridge.Proofs.Service.Call

/-!
# What records show

The extras of a journal's records are texts, which its redactor masks, but for some numbers under
names of their own.  In the records of a call there is one such number, the status.
-/

namespace QueryBridge

/-! ## Texts and numbers -/

namespace Log

/-- The extra is a text, or a number that may stand under its name. -/
def IsTextBut (numbers : String → Int → Prop) (extra : String × Json.Value) : Prop :=
  isReserved extra.1 = false ∧
    ((∃ text, extra.2 = .ofString text) ∨ ∃ number, extra.2 = .int number ∧ numbers extra.1 number)

variable {numbers others : String → Int → Prop} {extra : String × Json.Value}

theorem IsTextBut.mono (h : IsTextBut numbers extra)
    (hothers : ∀ name number, numbers name number → others name number) :
    IsTextBut others extra := by
  obtain ⟨hreserved, htext | ⟨number, hnumber, hallowed⟩⟩ := h
  · exact ⟨hreserved, Or.inl htext⟩
  · exact ⟨hreserved, Or.inr ⟨number, hnumber, hothers _ _ hallowed⟩⟩

theorem isTextBut_ofString {name : String} (h : isReserved name = false) (text : CodeString) :
    IsTextBut numbers (name, .ofString text) :=
  ⟨h, Or.inl ⟨text, rfl⟩⟩

theorem isTextBut_text {name : String} (h : isReserved name = false) (text : String) :
    IsTextBut numbers (name, .text text) :=
  isTextBut_ofString h text

theorem redactValue_ofString (redactor : Redactor) (text : CodeString) :
    Record.redactValue redactor (.ofString text) = .ofString (redactor.redact text) := by
  unfold Record.redactValue
  rw [Json.Value.string?_ofString]

theorem showValue_ofString (text : CodeString) : showValue (.ofString text) = text := by
  cases text <;> rfl

theorem isTextBut_int {name : String} {number : Int} (h : isReserved name = false)
    (hnumber : numbers name number) : IsTextBut numbers (name, .int number) :=
  ⟨h, Or.inr ⟨number, rfl, hnumber⟩⟩

/-- An extra of a masked record is a masked extra of the record. -/
theorem exists_of_mem_extras_redact {redactor : Redactor} {record : Record}
    (hrecord : ∀ extra ∈ record.extras, IsTextBut numbers extra)
    (h : extra ∈ (record.redact redactor).extras) :
    ∃ other ∈ record.extras, extra = (other.1, Record.redactValue redactor other.2) := by
  obtain ⟨other, hother, rfl⟩ := List.mem_map.mp h
  refine ⟨other, hother, ?_⟩
  rw [(hrecord other hother).1, if_neg Bool.false_ne_true]

theorem isTextBut_redact {redactor : Redactor} {record : Record}
    (hrecord : ∀ extra ∈ record.extras, IsTextBut numbers extra) :
    ∀ extra ∈ (record.redact redactor).extras, IsTextBut numbers extra := by
  intro extra hextra
  obtain ⟨other, hother, rfl⟩ := exists_of_mem_extras_redact hrecord hextra
  obtain ⟨hreserved, ⟨text, htext⟩ | ⟨number, hnumber, hallowed⟩⟩ := hrecord other hother
  · rw [htext, redactValue_ofString]
    exact isTextBut_ofString hreserved _
  · rw [hnumber]
    exact isTextBut_int hreserved hallowed

/-- Only a number can show a secret that the redactor holds. -/
theorem exists_number_of_infix {redactor : Redactor} (hproper : redactor.IsProper)
    {record : Record} (hrecord : ∀ extra ∈ record.extras, IsTextBut numbers extra)
    {secret : CodeString} (hheld : secret ∈ redactor.secrets) (hstars : star ∉ secret.codes)
    (hextra : extra ∈ (record.redact redactor).extras)
    (h : secret.codes <:+: (showValue extra.2).codes) :
    ∃ number, extra.2 = .int number ∧ numbers extra.1 number := by
  obtain ⟨other, hother, rfl⟩ := exists_of_mem_extras_redact hrecord hextra
  obtain ⟨-, ⟨text, htext⟩ | ⟨number, hnumber, hallowed⟩⟩ := hrecord other hother
  · rw [htext, redactValue_ofString, showValue_ofString] at h
    exact absurd h (hproper.not_infix_redact hheld hstars text)
  · rw [hnumber]
    exact ⟨number, rfl, hallowed⟩

end Log

namespace Service

open QueryBridge.Bridge (Failure)
open QueryBridge.Log (IsTextBut isTextBut_text isTextBut_int)

/-! ## Journals -/

namespace Journal

/-- All extras of the journal are texts. -/
def IsTextual (journal : Journal) : Prop :=
  ∀ extra ∈ journal.extras, IsTextBut (fun _ _ => False) extra

variable {journal : Journal} {numbers : String → Int → Prop} {extras : Fields Json.Value}

theorem IsTextual.record (h : journal.IsTextual)
    (hextras : ∀ extra ∈ extras, IsTextBut numbers extra) (level : Log.Level) (message : String) :
    ∀ extra ∈ (journal.record level message extras).extras, IsTextBut numbers extra := by
  apply Log.isTextBut_redact
  intro extra hextra
  rcases Fields.mem_or_mem_of_mem_override hextra with hown | hadded
  · exact (h extra hown).mono fun _ _ hnone => hnone.elim
  · exact hextras extra hadded

theorem IsTextual.bind (h : journal.IsTextual)
    (hextras : ∀ extra ∈ extras, IsTextBut (fun _ _ => False) extra) :
    (journal.bind extras).IsTextual := by
  intro extra hextra
  rcases Fields.mem_or_mem_of_mem_override hextra with hown | hadded
  · exact h extra hown
  · exact hextras extra hadded

end Journal

/-! ## Calls -/

/-- The number is the status of a response, under its name. -/
def IsStatus (replies : List Http.Reply) (name : String) (number : Int) : Prop :=
  name = "status_code" ∧ ∃ status : Nat, number = status ∧ Http.IsAnswered replies status

namespace Client

variable {journal : Journal}

theorem isTextBut_methodExtras (numbers : String → Int → Prop) (resource : String) :
    ∀ extra ∈ methodExtras resource, IsTextBut numbers extra := by
  intro extra hextra
  rcases List.mem_pair.mp hextra with rfl | rfl
  · exact isTextBut_text (by decide) _
  · exact isTextBut_text (by decide) _

theorem isTextBut_fetch (h : journal.IsTextual) (client : Client) (resource : String)
    (replies : List Http.Reply) :
    ∀ record ∈ (client.fetch journal resource replies).records, ∀ extra ∈ record.extras,
      IsTextBut (IsStatus replies) extra := by
  have hmethod := isTextBut_methodExtras (IsStatus replies) resource
  have hsent := h.record hmethod Log.Level.debug "HTTP request"
  -- a further record has one more extra, which is a text or the status
  have hfurther : ∀ {extra : String × Json.Value}, IsTextBut (IsStatus replies) extra →
      ∀ level message, ∀ record ∈ [journal.record Log.Level.debug "HTTP request"
          (methodExtras resource), journal.record level message (methodExtras resource ++ [extra])],
        ∀ extra ∈ record.extras, IsTextBut (IsStatus replies) extra := by
    intro extra hextra level message record hrecord
    rcases List.mem_pair.mp hrecord with rfl | rfl
    · exact hsent
    · refine h.record ?_ level message
      rw [List.forall_mem_append]
      exact ⟨hmethod, List.forall_mem_singleton.mpr hextra⟩
  unfold fetch
  cases client.request resource with
  | error failure => exact List.forall_mem_singleton.mpr hsent
  | ok request =>
      dsimp only
      cases houtcome : (Http.exchange request client.attempts replies).outcome with
      | ok response =>
          exact hfurther (isTextBut_int (by decide)
            ⟨rfl, response.status, rfl, Http.isAnswered_of_exchange houtcome⟩) _ _
      | error failure =>
          cases failure with
          | fault fault => exact hfurther (isTextBut_text (by decide) _) _ _
          | invalidUrl error => exact List.forall_mem_singleton.mpr hsent
          | headerEncoding => exact List.forall_mem_singleton.mpr hsent

theorem isAnswered_of_fetch {client : Client} {resource : String} {replies : List Http.Reply}
    {response : Http.Response}
    (h : (client.fetch journal resource replies).outcome = .ok response) :
    Http.IsAnswered replies response.status := by
  unfold fetch at h
  cases hrequest : client.request resource with
  | error failure =>
      rw [hrequest] at h
      cases h
  | ok request =>
      rw [hrequest] at h
      dsimp only at h
      cases houtcome : (Http.exchange request client.attempts replies).outcome with
      | ok answered =>
          rw [houtcome] at h
          cases h
          exact Http.isAnswered_of_exchange houtcome
      | error failure =>
          rw [houtcome] at h
          cases failure <;> cases h

end Client

/-- A further record is made of what a call returned. -/
theorem Call.forall_records_log {α : Type} (call : Call α) {record : α → Log.Record}
    {P : Log.Record → Prop} (h : ∀ other ∈ call.records, P other)
    (hrecord : ∀ value, call.outcome = .ok value → P (record value)) :
    ∀ other ∈ (call.log record).records, P other := by
  unfold log
  split
  · exact h
  · next value houtcome =>
    rw [List.forall_mem_append]
    exact ⟨h, List.forall_mem_singleton.mpr (hrecord value houtcome)⟩

end Service

end QueryBridge
