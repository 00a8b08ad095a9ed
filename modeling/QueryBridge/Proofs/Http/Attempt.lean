import QueryBridge.Http.Retry

/-!
# Attempts at a request

Every attempt at a request starts over: the first request that it sends is the request
itself, whatever the attempts before it led to.
-/

namespace QueryBridge.Http

theorem head?_requests_follow (budget : Nat) (request : Request) (replies : List Reply) :
    (follow (budget + 1) request replies).requests.head? = some request := by
  unfold follow
  dsimp only
  split
  · rfl
  · split
    · rfl
    · split
      · rfl
      · split <;> rfl

/-- An attempt begins with the request that it is an attempt at. -/
theorem head?_requests_send (request : Request) (replies : List Reply) :
    (send request replies).requests.head? = some request :=
  head?_requests_follow maxRedirects request replies

theorem exists_send_of_mem_exchangeFrom {request : Request} {number more : Nat}
    {replies : List Reply} {attempt : Attempt}
    (h : attempt ∈ (exchangeFrom request number more replies).attempts) :
    ∃ left, attempt = send request left := by
  induction more generalizing number replies with
  | zero =>
      simp only [exchangeFrom, Exchange.attempts, List.nil_append, List.mem_singleton] at h
      exact ⟨replies, h⟩
  | succ more ih =>
      simp only [exchangeFrom] at h
      split at h
      · simp only [Exchange.attempts, List.cons_append] at h
        rcases List.mem_cons.mp h with rfl | h
        · exact ⟨replies, rfl⟩
        · exact ih h
      · simp only [Exchange.attempts, List.nil_append, List.mem_singleton] at h
        exact ⟨replies, h⟩

theorem head?_requests_of_mem_exchange {request : Request} {attempts : Nat}
    {replies : List Reply} {attempt : Attempt}
    (h : attempt ∈ (exchange request attempts replies).attempts) :
    attempt.requests.head? = some request := by
  obtain ⟨left, rfl⟩ := exists_send_of_mem_exchangeFrom h
  exact head?_requests_send request left

end QueryBridge.Http
