import Mathlib.Data.List.Basic
import QueryBridge.Proofs.Http.Attempt

/-!
# Where redirects go astray

A location that is no URL is a fault of the answer.  One that is a URL, but has no meaning at
the URL of the request, leads astray: the attempt ends with what is wrong with the URL, and
is not repeated.  Every request takes the next reply, so this is seen in the last request that
was sent and the reply to it.
-/

namespace QueryBridge.Http

/-! ## One request -/

/-- The reply to a request holds a location that cannot be followed from there. -/
def Request.LeadsAstray (request : Request) (reply : Reply) (error : Url.Error) : Prop :=
  ∃ answer location target, reply = .answer answer ∧ answer.location? = some location ∧
    Url.parse location.toList = .ok target ∧ Url.follow request.url target = .error error

theorem Request.leadsAstray_answer_iff {request : Request} {answer : Answer} {error : Url.Error} :
    request.LeadsAstray (.answer answer) error ↔
      ∃ location target, answer.location? = some location ∧
        Url.parse location.toList = .ok target ∧ Url.follow request.url target = .error error := by
  constructor
  · rintro ⟨_, location, target, heq, hlocation⟩
    cases heq
    exact ⟨location, target, hlocation⟩
  · rintro ⟨location, target, hlocation⟩
    exact ⟨answer, location, target, rfl, hlocation⟩

/-- The headers of an answer can be read only if they can be sent. -/
def Reply.isReadable : Reply → Bool
  | .fault _ => true
  | .answer given => Headers.areEncodable given.headers

/-- A reply leads to another request, or the attempt ends with it. -/
theorem follow_cases (budget : Nat) (request : Request) (replies : List Reply) :
    let reply := replies.head?.getD .blank
    let attempt := follow (budget + 1) request replies
    (∃ next, (∀ error, ¬ request.LeadsAstray reply error) ∧
      let further := follow budget next (replies.drop 1)
      attempt = { further with requests := request :: further.requests }) ∨
    ∃ outcome, attempt = ⟨outcome, [request], replies.drop 1⟩ ∧
      (reply.isReadable → outcome ≠ .error .headerEncoding ∧
        ∀ error, outcome = .error (.invalidUrl error) ↔ request.LeadsAstray reply error) := by
  dsimp only
  rw [follow]
  dsimp only
  cases replies.head?.getD .blank with
  | fault fault => exact Or.inr ⟨_, rfl, fun _ => by simp [Request.LeadsAstray]⟩
  | answer answer =>
      simp only [Request.leadsAstray_answer_iff]
      cases hencodable : Headers.areEncodable answer.headers with
      | false => exact Or.inr ⟨_, rfl, fun hreadable => by cases hencodable.symm.trans hreadable⟩
      | true =>
          cases hlocation : answer.location? with
          | none => exact Or.inr ⟨_, rfl, fun _ => by simp⟩
          | some location =>
              dsimp only
              unfold Request.redirect
              cases hparse : Url.parse location.toList with
              | error error => exact Or.inr ⟨_, rfl, fun _ => by simp [hparse]⟩
              | ok target =>
                  dsimp only
                  cases hfollow : Url.follow request.url target with
                  | error error => exact Or.inr ⟨_, rfl, fun _ => by simp [hparse, hfollow]⟩
                  | ok url => exact Or.inl ⟨_, by simp [hparse, hfollow], rfl⟩

/-! ## The last of several requests -/

/-- The last of the requests was led astray by the reply to it. -/
def EndsAstray (requests : List Request) (replies : List Reply) (error : Url.Error) : Prop :=
  ∃ last, requests.getLast? = some last ∧
    last.LeadsAstray (replies.getD (requests.length - 1) .blank) error

theorem not_endsAstray_nil (replies : List Reply) (error : Url.Error) :
    ¬ EndsAstray [] replies error := by
  rintro ⟨last, hlast, -⟩
  cases hlast

theorem endsAstray_singleton_iff {request : Request} {replies : List Reply} {error : Url.Error} :
    EndsAstray [request] replies error ↔
      request.LeadsAstray (replies.head?.getD .blank) error := by
  unfold EndsAstray
  rw [List.getD_eq_getElem?_getD, List.head?_eq_getElem?]
  simp

/-- Requests that follow others are answered by the replies that these have left. -/
theorem endsAstray_append_iff {first second : List Request} (h : second ≠ [])
    {replies : List Reply} {error : Url.Error} :
    EndsAstray (first ++ second) replies error ↔
      EndsAstray second (replies.drop first.length) error := by
  have hpos : 0 < second.length := List.length_pos_iff.mpr h
  have hindex : (first ++ second).length - 1 = first.length + (second.length - 1) := by
    rw [List.length_append]
    omega
  unfold EndsAstray
  rw [hindex, List.getLast?_append_of_ne_nil _ h, List.getD_eq_getElem?_getD,
    List.getD_eq_getElem?_getD, List.getElem?_drop]

/-! ## Attempts -/

/-- An attempt takes one reply for each request that it sends. -/
theorem rest_follow (budget : Nat) (request : Request) (replies : List Reply) :
    (follow budget request replies).rest =
      replies.drop (follow budget request replies).requests.length := by
  induction budget generalizing request replies with
  | zero => rfl
  | succ budget ih =>
      rcases follow_cases budget request replies with ⟨next, -, heq⟩ | ⟨outcome, heq, -⟩
      · rw [heq]
        dsimp only
        rw [ih, List.drop_drop, List.length_cons, Nat.add_comm]
      · rw [heq]
        rfl

theorem isReadable_head?_getD {replies : List Reply} (h : ∀ reply ∈ replies, reply.isReadable) :
    (replies.head?.getD .blank).isReadable = true := by
  cases replies with
  | nil => rfl
  | cons reply replies => exact h reply List.mem_cons_self

theorem isReadable_drop {replies : List Reply} (h : ∀ reply ∈ replies, reply.isReadable)
    (count : Nat) : ∀ reply ∈ replies.drop count, reply.isReadable :=
  fun reply hreply => h reply (List.mem_of_mem_drop hreply)

/-- An attempt ends with an invalid URL exactly if its last request was led astray. -/
theorem outcome_follow {replies : List Reply} (h : ∀ reply ∈ replies, reply.isReadable)
    (budget : Nat) (request : Request) :
    let attempt := follow budget request replies
    attempt.outcome ≠ .error .headerEncoding ∧
      ∀ error, attempt.outcome = .error (.invalidUrl error) ↔
        EndsAstray attempt.requests replies error := by
  induction budget generalizing request replies with
  | zero => simp [follow, not_endsAstray_nil]
  | succ budget ih =>
      intro attempt
      rcases follow_cases budget request replies with ⟨next, hfollowed, heq⟩ | ⟨outcome, heq, hend⟩
      · obtain ⟨hheader, hastray⟩ := ih (isReadable_drop h 1) next
        rw [show attempt = _ from heq]
        refine ⟨hheader, fun error => (hastray error).trans ?_⟩
        -- the first request was followed, so only a later one can be the last that went astray
        by_cases hnone : (follow budget next (replies.drop 1)).requests = []
        · rw [hnone, endsAstray_singleton_iff]
          exact iff_of_false (not_endsAstray_nil _ _) (hfollowed error)
        · rw [← List.singleton_append, endsAstray_append_iff hnone]
          rfl
      · rw [show attempt = _ from heq]
        obtain ⟨hheader, hastray⟩ := hend (isReadable_head?_getD h)
        exact ⟨hheader, fun error => (hastray error).trans endsAstray_singleton_iff.symm⟩

/-! ## Exchanges -/

theorem requests_exchangeFrom_ne_nil (request : Request) (number more : Nat)
    (replies : List Reply) :
    (exchangeFrom request number more replies).attempts.flatMap Attempt.requests ≠ [] := by
  intro hnone
  have hmem : (exchangeFrom request number more replies).last ∈
      (exchangeFrom request number more replies).attempts :=
    List.mem_append_right _ List.mem_cons_self
  obtain ⟨left, hlast⟩ := exists_send_of_mem_exchangeFrom hmem
  have hhead := head?_requests_send request left
  rw [← hlast, List.flatMap_eq_nil_iff.mp hnone _ hmem] at hhead
  cases hhead

/-- An exchange ends as its last attempt does: with an invalid URL exactly if the last of all
requests was led astray. -/
theorem outcome_exchangeFrom {replies : List Reply} (h : ∀ reply ∈ replies, reply.isReadable)
    (request : Request) (number more : Nat) :
    let exchange := exchangeFrom request number more replies
    exchange.outcome ≠ .error .headerEncoding ∧
      ∀ error, exchange.outcome = .error (.invalidUrl error) ↔
        EndsAstray (exchange.attempts.flatMap Attempt.requests) replies error := by
  induction more generalizing number replies with
  | zero =>
      simpa [exchangeFrom, Exchange.attempts, Exchange.outcome, send] using
        outcome_follow h (maxRedirects + 1) request
  | succ more ih =>
      rw [exchangeFrom]
      dsimp only
      split
      · -- the further attempts begin with the replies that this one leaves
        have hrest : (send request replies).rest =
            replies.drop (send request replies).requests.length := rest_follow _ request replies
        have hfurther := ih (isReadable_drop h (send request replies).requests.length) (number + 1)
        rw [← hrest] at hfurther
        refine ⟨hfurther.1, fun error => (hfurther.2 error).trans ?_⟩
        rw [hrest]
        exact (endsAstray_append_iff (requests_exchangeFrom_ne_nil _ _ _ _)).symm
      · simpa [Exchange.attempts, Exchange.outcome, send] using
          outcome_follow h (maxRedirects + 1) request

theorem outcome_exchange {replies : List Reply} (h : ∀ reply ∈ replies, reply.isReadable)
    (request : Request) (attempts : Nat) :
    let exchange := exchange request attempts replies
    exchange.outcome ≠ .error .headerEncoding ∧
      ∀ error, exchange.outcome = .error (.invalidUrl error) ↔
        EndsAstray (exchange.attempts.flatMap Attempt.requests) replies error :=
  outcome_exchangeFrom h request 1 (attempts - 1)

end QueryBridge.Http
