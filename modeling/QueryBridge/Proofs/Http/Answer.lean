import QueryBridge.Proofs.Http.Retry

/-!
# Whose status a response has

The status of a response is that of an answer of the service, or 200 if the service has come to
the end of its replies.
-/

namespace QueryBridge.Http

/-- The status is one of a service with these replies. -/
def IsAnswered (replies : List Reply) (status : Nat) : Prop :=
  status = 200 ∨ ∃ answer, Reply.answer answer ∈ replies ∧ answer.status = status

theorem IsAnswered.of_drop {replies : List Reply} {count status : Nat}
    (h : IsAnswered (replies.drop count) status) : IsAnswered replies status := by
  rcases h with h | ⟨answer, hanswer, hstatus⟩
  · exact Or.inl h
  · exact Or.inr ⟨answer, List.mem_of_mem_drop hanswer, hstatus⟩

theorem isAnswered_of_head? {replies : List Reply} {answer : Answer}
    (h : replies.head?.getD .blank = .answer answer) : IsAnswered replies answer.status := by
  cases replies with
  | nil =>
      cases h
      exact Or.inl rfl
  | cons reply replies =>
      obtain rfl : reply = .answer answer := h
      exact Or.inr ⟨answer, List.mem_cons_self, rfl⟩

theorem isAnswered_of_follow {budget : Nat} {request : Request} {replies : List Reply}
    {response : Response} (h : (follow budget request replies).outcome = .ok response) :
    IsAnswered replies response.status := by
  induction budget generalizing request replies with
  | zero => cases h
  | succ budget ih =>
      rw [follow] at h
      dsimp only at h
      split at h
      · cases h
      · next answer hreply =>
        split at h
        · cases h
        split at h
        · cases h
          exact isAnswered_of_head? hreply
        · split at h
          · cases h
          · exact (ih h).of_drop

/-- The last attempt of an exchange takes the replies that are left. -/
theorem isAnswered_of_exchange {request : Request} {attempts : Nat} {replies : List Reply}
    {response : Response} (h : (exchange request attempts replies).outcome = .ok response) :
    IsAnswered replies response.status := by
  have hlast := (isRetrial_exchangeFrom request 1 (attempts - 1) replies).starts_over
    (exchange request attempts replies).retried (exchange request attempts replies).last [] rfl
  unfold Exchange.outcome at h
  rw [hlast] at h
  exact (isAnswered_of_follow h).of_drop

end QueryBridge.Http
