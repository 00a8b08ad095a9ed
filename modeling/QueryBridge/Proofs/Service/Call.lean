import QueryBridge.Service.Client

/-!
# What calls keep

Reading a result and making a record change the outcome or the records of a call, and
nothing of what it sends.
-/

namespace QueryBridge.Service.Call

variable {α β : Type}

theorem requests_congr {first : Call α} {second : Call β} (h : first.attempts = second.attempts) :
    first.requests = second.requests := by
  unfold requests
  rw [h]

/-! ## Calls that send nothing -/

@[simp] theorem outcome_silent (outcome : Except Bridge.Failure α) (rest : List Http.Reply) :
    (silent outcome rest).outcome = outcome := rfl

/-! ## Reading a result -/

@[simp] theorem attempts_andThen (call : Call α) (read : α → Except Bridge.Failure β) :
    (call.andThen read).attempts = call.attempts := rfl

@[simp] theorem records_andThen (call : Call α) (read : α → Except Bridge.Failure β) :
    (call.andThen read).records = call.records := rfl

@[simp] theorem outcome_andThen (call : Call α) (read : α → Except Bridge.Failure β) :
    (call.andThen read).outcome = call.outcome.bind read := rfl

/-! ## Making a record -/

@[simp] theorem attempts_log (call : Call α) (record : α → Log.Record) :
    (call.log record).attempts = call.attempts := by
  unfold log
  split <;> rfl

@[simp] theorem outcome_log (call : Call α) (record : α → Log.Record) :
    (call.log record).outcome = call.outcome := by
  unfold log
  split <;> rfl

/-! ## One call after another -/

/-- A failure ends the whole. -/
theorem bind_of_error {call : Call α} {failure : Bridge.Failure}
    (h : call.outcome = .error failure) (next : α → List Http.Reply → Call β) :
    (call.bind next).outcome = .error failure ∧ (call.bind next).requests = call.requests := by
  unfold bind
  rw [h]
  exact ⟨rfl, rfl⟩

theorem bind_of_ok {call : Call α} {value : α} (h : call.outcome = .ok value)
    (next : α → List Http.Reply → Call β) :
    (call.bind next).outcome = (next value call.rest).outcome ∧
      (call.bind next).requests = call.requests ++ (next value call.rest).requests := by
  unfold bind
  rw [h]
  exact ⟨rfl, List.flatMap_append⟩

end QueryBridge.Service.Call
