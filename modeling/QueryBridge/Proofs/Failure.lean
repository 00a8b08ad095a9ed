/-!
# How computations end

A result needs a result of every step of a computation.  Errors come from the steps as well: if
each step fails only with errors of a kind, the whole does.
-/

namespace QueryBridge

variable {ε α β : Type} {P Q : ε → Prop}

/-- Every error that the outcome can be has the property. -/
def FailsOnly (P : ε → Prop) (outcome : Except ε α) : Prop :=
  ∀ error, outcome = .error error → P error

/-! ## Outcomes -/

theorem failsOnly_ok (value : α) : FailsOnly P (.ok value) :=
  nofun

theorem failsOnly_pure (value : α) : FailsOnly P (pure value) :=
  nofun

theorem failsOnly_error {error : ε} (h : P error) :
    FailsOnly P (.error error : Except ε α) := by
  rintro _ ⟨⟩
  exact h

/-- The next step has only to be looked at for the value that the outcome has. -/
theorem FailsOnly.bind_of_eq {outcome : Except ε α} {next : α → Except ε β}
    (h : FailsOnly P outcome) (hnext : ∀ value, outcome = .ok value → FailsOnly P (next value)) :
    FailsOnly P (outcome >>= next) := by
  cases outcome with
  | error error => exact failsOnly_error (h error rfl)
  | ok value => exact hnext value rfl

theorem FailsOnly.bind {outcome : Except ε α} {next : α → Except ε β} (h : FailsOnly P outcome)
    (hnext : ∀ value, FailsOnly P (next value)) : FailsOnly P (outcome >>= next) :=
  h.bind_of_eq fun value _ => hnext value

theorem FailsOnly.ite {condition : Prop} [Decidable condition] {first second : Except ε α}
    (hfirst : FailsOnly P first) (hsecond : FailsOnly P second) :
    FailsOnly P (if condition then first else second) := by
  split
  · exact hfirst
  · exact hsecond

theorem FailsOnly.map {outcome : Except ε α} (h : FailsOnly P outcome) (f : α → β) :
    FailsOnly P (outcome.map f) := by
  cases outcome with
  | error error => exact failsOnly_error (h error rfl)
  | ok value => exact failsOnly_ok (f value)

theorem failsOnly_mapError {ε' : Type} {outcome : Except ε' α} {f : ε' → ε}
    (h : ∀ error, P (f error)) : FailsOnly P (outcome.mapError f) := by
  cases outcome with
  | error error => exact failsOnly_error (h error)
  | ok value => exact failsOnly_ok value

theorem FailsOnly.mono {outcome : Except ε α} (h : FailsOnly P outcome)
    (hmono : ∀ error, P error → Q error) : FailsOnly Q outcome :=
  fun error heq => hmono error (h error heq)

/-! ## Results -/

/-- Every error that the outcome can be has one property, and every result another one. -/
def EndsWith (P : ε → Prop) (R : α → Prop) : Except ε α → Prop
  | .error error => P error
  | .ok value => R value

variable {R : α → Prop} {S : β → Prop}

theorem EndsWith.failsOnly {outcome : Except ε α} (h : EndsWith P R outcome) :
    FailsOnly P outcome := by
  rintro error rfl
  exact h

theorem EndsWith.bind {outcome : Except ε α} {next : α → Except ε β} (h : EndsWith P R outcome)
    (hnext : ∀ value, R value → EndsWith P S (next value)) :
    EndsWith P S (outcome >>= next) := by
  cases outcome with
  | error error => exact h
  | ok value => exact hnext value h

theorem exists_of_bind_eq_ok {outcome : Except ε α} {next : α → Except ε β} {result : β}
    (h : outcome.bind next = .ok result) :
    ∃ value, outcome = .ok value ∧ next value = .ok result := by
  cases outcome with
  | error error => cases h
  | ok value => exact ⟨value, rfl, h⟩

theorem exists_of_map_eq_ok {outcome : Except ε α} {f : α → β} {result : β}
    (h : outcome.map f = .ok result) : ∃ value, outcome = .ok value ∧ f value = result := by
  cases outcome with
  | error error => cases h
  | ok value =>
      cases h
      exact ⟨value, rfl, rfl⟩

end QueryBridge
