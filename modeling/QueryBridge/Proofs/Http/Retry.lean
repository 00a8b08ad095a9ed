import QueryBridge.Proofs.Http.Redirect

/-!
# What is retried

An exchange is a row of attempts at one request.  Each of them starts over with the request and
takes the replies that those before it have left.  All but the last failed by a fault of the
transport; the last one did not, unless no further attempt was allowed.

One attempt sends at most `maxRedirects + 1` requests.  So an exchange reads a bounded beginning
of the replies, and it does not matter what comes behind, or whether that has an end.
-/

namespace QueryBridge.Http

/-! ## One attempt -/

theorem Attempt.isRetryable_iff {attempt : Attempt} :
    attempt.isRetryable = true ↔
      ∃ fault, attempt.outcome = .error (.fault fault) ∧ fault.kind.isTransport = true := by
  unfold Attempt.isRetryable
  cases attempt.outcome with
  | ok response => simp
  | error failure => cases failure <;> simp

theorem length_requests_follow_le (budget : Nat) (request : Request) (replies : List Reply) :
    (follow budget request replies).requests.length ≤ budget := by
  induction budget generalizing request replies with
  | zero => exact Nat.le_refl 0
  | succ budget ih =>
      rcases follow_cases budget request replies with ⟨next, -, heq⟩ | ⟨outcome, heq, -⟩
      · have hfurther := ih next (replies.drop 1)
        rw [heq]
        exact Nat.succ_le_succ hfurther
      · rw [heq]
        exact Nat.succ_le_succ (Nat.zero_le budget)

theorem length_requests_send_le (request : Request) (replies : List Reply) :
    (send request replies).requests.length ≤ maxRedirects + 1 :=
  length_requests_follow_le (maxRedirects + 1) request replies

/-- An attempt that may send so many requests reads so many replies. -/
theorem follow_congr_take {budget : Nat} {first second : List Reply}
    (h : first.take budget = second.take budget) (request : Request) :
    (follow budget request first).outcome = (follow budget request second).outcome ∧
      (follow budget request first).requests = (follow budget request second).requests := by
  induction budget generalizing request first second with
  | zero => exact ⟨rfl, rfl⟩
  | succ budget ih =>
      have hhead : first.head? = second.head? := by
        have hheads := congrArg List.head? h
        simpa [List.head?_take] using hheads
      have hrest : (first.drop 1).take budget = (second.drop 1).take budget := by
        have htails := congrArg (List.drop 1) h
        simpa [List.drop_take] using htails
      unfold follow
      rw [hhead]
      dsimp only
      cases second.head?.getD .blank with
      | fault fault => exact ⟨rfl, rfl⟩
      | answer answer =>
          dsimp only
          split
          · exact ⟨rfl, rfl⟩
          · cases answer.location? with
            | none => exact ⟨rfl, rfl⟩
            | some location =>
                dsimp only
                cases request.redirect location with
                | error failure => exact ⟨rfl, rfl⟩
                | ok next =>
                    obtain ⟨houtcome, hrequests⟩ := ih hrest next
                    exact ⟨houtcome, congrArg (request :: ·) hrequests⟩

/-! ## Rows of attempts -/

/-- Induction over the attempts of an exchange. -/
theorem exchangeFrom_induction {request : Request}
    {motive : Nat → Nat → List Reply → Exchange → Prop}
    (ended : ∀ number more replies, more = 0 ∨ (send request replies).isRetryable = false →
      motive number more replies ⟨[], send request replies, []⟩)
    (retried : ∀ number more replies further, (send request replies).isRetryable = true →
      motive (number + 1) more (send request replies).rest further →
      motive number (more + 1) replies
        ⟨send request replies :: further.retried, further.last,
          waitAfter number :: further.waits⟩)
    (number more : Nat) (replies : List Reply) :
    motive number more replies (exchangeFrom request number more replies) := by
  induction more generalizing number replies with
  | zero => exact ended number 0 replies (Or.inl rfl)
  | succ more ih =>
      rw [exchangeFrom]
      dsimp only
      split
      · next hretryable => exact retried number more replies _ hretryable (ih (number + 1) _)
      · next hretryable =>
          exact ended number (more + 1) replies (Or.inr (by simpa using hretryable))

/-- How an exchange with at most `budget` attempts at a request comes about. -/
structure Exchange.IsRetrial (request : Request) (budget : Nat) (replies : List Reply)
    (exchange : Exchange) : Prop where
  /-- Every attempt starts over, with the replies that those before it have left. -/
  starts_over : ∀ before attempt after, exchange.attempts = before ++ attempt :: after →
    attempt = send request (replies.drop (before.flatMap Attempt.requests).length)
  /-- Another attempt follows a fault of the transport only. -/
  retried_fault : ∀ attempt ∈ exchange.retried,
    ∃ fault, attempt.outcome = .error (.fault fault) ∧ fault.kind.isTransport = true
  length_le : exchange.attempts.length ≤ budget
  /-- Such a fault is the end only if no attempt is left. -/
  last_fault : ∀ fault, exchange.last.outcome = .error (.fault fault) →
    fault.kind.isTransport = true → exchange.attempts.length = budget

theorem isRetrial_exchangeFrom (request : Request) (number more : Nat) (replies : List Reply) :
    (exchangeFrom request number more replies).IsRetrial request (more + 1) replies := by
  refine exchangeFrom_induction
    (motive := fun _ more replies exchange => exchange.IsRetrial request (more + 1) replies)
    ?_ ?_ number more replies
  · intro number more replies hended
    constructor
    · intro before attempt after hattempts
      obtain ⟨rfl, heq⟩ : before = [] ∧ attempt = send request replies := by
        cases before with
        | nil =>
            simp only [Exchange.attempts, List.nil_append, List.cons.injEq] at hattempts
            exact ⟨rfl, hattempts.1.symm⟩
        | cons other before => simp [Exchange.attempts] at hattempts
      simpa using heq
    · intro attempt hattempt
      exact absurd hattempt List.not_mem_nil
    · exact Nat.succ_le_succ (Nat.zero_le more)
    · intro fault houtcome htransport
      rcases hended with rfl | hretryable
      · rfl
      · have hfault := Attempt.isRetryable_iff.mpr ⟨fault, houtcome, htransport⟩
        cases hretryable.symm.trans hfault
  · intro number more replies further hretryable hfurther
    have hrest : (send request replies).rest =
        replies.drop (send request replies).requests.length := rest_follow _ request replies
    constructor
    · intro before attempt after hattempts
      simp only [Exchange.attempts, List.cons_append] at hattempts
      cases before with
      | nil =>
          rw [List.nil_append, List.cons.injEq] at hattempts
          simpa using hattempts.1.symm
      | cons first before =>
          -- the attempt is one of the further ones, which begin where the first has ended
          rw [List.cons_append, List.cons.injEq] at hattempts
          have hattempt := hfurther.starts_over before attempt after hattempts.2
          rw [hattempt, hrest, List.drop_drop, ← hattempts.1, List.flatMap_cons,
            List.length_append]
    · intro attempt hattempt
      rcases List.mem_cons.mp hattempt with rfl | hattempt
      · exact Attempt.isRetryable_iff.mp hretryable
      · exact hfurther.retried_fault attempt hattempt
    · exact Nat.succ_le_succ hfurther.length_le
    · intro fault houtcome htransport
      exact congrArg Nat.succ (hfurther.last_fault fault houtcome htransport)

/-- The waits go with the attempts that were followed by another one. -/
theorem waits_exchangeFrom (request : Request) (number more : Nat) (replies : List Reply) :
    let exchange := exchangeFrom request number more replies
    exchange.waits =
      (List.range exchange.retried.length).map fun index => waitAfter (number + index) := by
  refine exchangeFrom_induction (motive := fun number _ _ exchange => exchange.waits =
      (List.range exchange.retried.length).map fun index => waitAfter (number + index))
    (fun _ _ _ _ => rfl) ?_ number more replies
  intro number more replies further _ hfurther
  rw [List.length_cons, List.range_succ_eq_map, List.map_cons, List.map_map, hfurther]
  refine congrArg (waitAfter number :: ·) (List.map_congr_left fun index _ => ?_)
  rw [Function.comp_apply, Nat.succ_eq_add_one, Nat.add_assoc, Nat.add_comm 1 index]

theorem length_requests_exchangeFrom_le (request : Request) (number more : Nat)
    (replies : List Reply) :
    ((exchangeFrom request number more replies).attempts.flatMap Attempt.requests).length ≤
      (maxRedirects + 1) * (more + 1) := by
  refine exchangeFrom_induction (motive := fun _ more _ exchange =>
    (exchange.attempts.flatMap Attempt.requests).length ≤ (maxRedirects + 1) * (more + 1))
    ?_ ?_ number more replies
  · intro number more replies _
    have hsent := length_requests_send_le request replies
    have hbudget : maxRedirects + 1 ≤ (maxRedirects + 1) * (more + 1) :=
      Nat.le_mul_of_pos_right _ (Nat.succ_pos more)
    simpa [Exchange.attempts] using Nat.le_trans hsent hbudget
  · intro number more replies further _ hfurther
    have hsent := length_requests_send_le request replies
    simp only [Exchange.attempts, List.cons_append, List.flatMap_cons, List.length_append]
      at hfurther ⊢
    rw [Nat.mul_succ, Nat.add_comm]
    exact Nat.add_le_add hfurther hsent

/-! ## The replies that are read -/

theorem take_drop_congr {first second : List Reply} {bound skipped count : Nat}
    (h : first.take bound = second.take bound) (hle : skipped + count ≤ bound) :
    (first.drop skipped).take count = (second.drop skipped).take count := by
  have hshorter : first.take (skipped + count) = second.take (skipped + count) := by
    have hprefix := congrArg (List.take (skipped + count)) h
    rwa [List.take_take, List.take_take, Nat.min_eq_left hle] at hprefix
  have hdropped := congrArg (List.drop skipped) hshorter
  rwa [List.drop_take, List.drop_take, Nat.add_sub_cancel_left] at hdropped

theorem Attempt.isRetryable_congr {first second : Attempt} (h : first.outcome = second.outcome) :
    first.isRetryable = second.isRetryable := by
  unfold Attempt.isRetryable
  rw [h]

/-- Rows of replies that agree as far as all attempts can read lead to the same exchange, apart
from what is left of them. -/
theorem exchangeFrom_congr_take {request : Request} (number more : Nat)
    {first second : List Reply}
    (h : first.take ((maxRedirects + 1) * (more + 1)) =
      second.take ((maxRedirects + 1) * (more + 1))) :
    let exchange := exchangeFrom request number more first
    let other := exchangeFrom request number more second
    exchange.outcome = other.outcome ∧ exchange.waits = other.waits ∧
      exchange.attempts.map Attempt.requests = other.attempts.map Attempt.requests := by
  induction more generalizing number first second with
  | zero =>
      obtain ⟨houtcome, hrequests⟩ := follow_congr_take (by simpa using h) request
      exact ⟨houtcome, rfl, congrArg (fun requests => [requests]) hrequests⟩
  | succ more ih =>
      rw [Nat.mul_succ] at h
      have hbeginning : (first.drop 0).take (maxRedirects + 1) =
          (second.drop 0).take (maxRedirects + 1) := take_drop_congr h (by omega)
      obtain ⟨houtcome, hrequests⟩ := follow_congr_take hbeginning request
      have hretryable : (send request first).isRetryable = (send request second).isRetryable :=
        Attempt.isRetryable_congr houtcome
      rw [exchangeFrom, exchangeFrom]
      dsimp only
      rw [hretryable]
      split
      · -- both first attempts have read the same number of replies
        have hfirst : (send request first).rest =
            first.drop (send request first).requests.length := rest_follow _ request first
        have hsecond : (send request second).rest =
            second.drop (send request first).requests.length := by
          rw [show (send request first).requests = _ from hrequests]
          exact rest_follow _ request second
        have hread := length_requests_send_le request first
        rw [hfirst, hsecond]
        generalize (send request first).requests.length = read at hread
        have hrest : (first.drop read).take ((maxRedirects + 1) * (more + 1)) =
            (second.drop read).take ((maxRedirects + 1) * (more + 1)) :=
          take_drop_congr h (by omega)
        obtain ⟨houtcome', hwaits, hattempts⟩ := ih (number + 1) hrest
        refine ⟨houtcome', congrArg (waitAfter number :: ·) hwaits, ?_⟩
        simp only [Exchange.attempts, List.cons_append, List.map_cons] at hattempts ⊢
        rw [show (send request first).requests = _ from hrequests, hattempts]
        rfl
      · exact ⟨houtcome, rfl, congrArg (fun requests => [requests]) hrequests⟩

/-! ## Exchanges -/

variable {budget : Nat}

theorem isRetrial_exchange (hbudget : 1 ≤ budget) (request : Request) (replies : List Reply) :
    (exchange request budget replies).IsRetrial request budget replies := by
  have hretrial := isRetrial_exchangeFrom request 1 (budget - 1) replies
  rw [Nat.sub_add_cancel hbudget] at hretrial
  exact hretrial

theorem waits_exchange (request : Request) (budget : Nat) (replies : List Reply) :
    (exchange request budget replies).waits =
      (List.range (exchange request budget replies).retried.length).map
        fun index => min 8 (Nat.pow 2 index) := by
  have hwaits := waits_exchangeFrom request 1 (budget - 1) replies
  simp only [waitAfter, Nat.add_sub_cancel_left] at hwaits
  exact hwaits

theorem length_requests_exchange_le (hbudget : 1 ≤ budget) (request : Request)
    (replies : List Reply) :
    ((exchange request budget replies).attempts.flatMap Attempt.requests).length ≤
      (maxRedirects + 1) * budget := by
  have hlength := length_requests_exchangeFrom_le request 1 (budget - 1) replies
  rw [Nat.sub_add_cancel hbudget] at hlength
  exact hlength

theorem exchange_congr_take (hbudget : 1 ≤ budget) {first second : List Reply}
    (h : first.take ((maxRedirects + 1) * budget) = second.take ((maxRedirects + 1) * budget))
    (request : Request) :
    (exchange request budget first).outcome = (exchange request budget second).outcome ∧
      (exchange request budget first).waits = (exchange request budget second).waits ∧
      (exchange request budget first).attempts.map Attempt.requests =
        (exchange request budget second).attempts.map Attempt.requests := by
  rw [← Nat.sub_add_cancel hbudget] at h
  exact exchangeFrom_congr_take 1 (budget - 1) h

end QueryBridge.Http
