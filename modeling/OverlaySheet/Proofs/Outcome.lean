/-! Chains of steps that may fail: when such a chain succeeds, and what it fails with. -/

namespace OverlaySheet

variable {Error Value Result : Type}

/-- Two steps in a row succeed exactly when the first does and the second does on its result. -/
theorem bind_eq_ok_iff {first : Except Error Value} {second : Value → Except Error Result}
    {result : Result} :
    (first >>= second) = .ok result ↔
      ∃ middle, first = .ok middle ∧ second middle = .ok result := by
  cases first <;> simp [Bind.bind, Except.bind]

/-- Two steps in a row fail with what the first fails with, or the second on its result. -/
theorem bind_eq_error_iff {first : Except Error Value} {second : Value → Except Error Result}
    {failure : Error} :
    (first >>= second) = .error failure ↔
      first = .error failure ∨ ∃ middle, first = .ok middle ∧ second middle = .error failure := by
  cases first <;> simp [Bind.bind, Except.bind]

/-- A change of the error leaves success as it is. -/
@[simp] theorem mapError_eq_ok_iff {Other : Type} {step : Except Error Value}
    {change : Error → Other} {value : Value} :
    step.mapError change = .ok value ↔ step = .ok value := by
  cases step with
  | ok result =>
    -- The change is not reached, so the values are the same on both sides.
    constructor
    · intro succeeded
      exact congrArg Except.ok (Except.ok.inj succeeded)
    · intro succeeded
      exact congrArg Except.ok (Except.ok.inj succeeded)
  | error failure =>
    -- An error is no success, before the change and after it.
    constructor
    · intro succeeded
      cases succeeded
    · intro succeeded
      cases succeeded

/-- A changed error is the change of an error. -/
theorem mapError_eq_error_iff {Other : Type} {step : Except Error Value} {change : Error → Other}
    {failure : Other} :
    step.mapError change = .error failure ↔ ∃ own, step = .error own ∧ change own = failure := by
  cases step with
  | ok result =>
    -- A success is no error, before the change and after it.
    constructor
    · intro failed
      cases failed
    · intro parts
      obtain ⟨own, failed, _⟩ := parts
      cases failed
  | error own =>
    -- There is one error to change, and it is the step's own.
    constructor
    · intro failed
      exact ⟨own, rfl, Except.error.inj failed⟩
    · intro parts
      obtain ⟨_, same, changed⟩ := parts
      obtain rfl := Except.error.inj same
      exact congrArg Except.error changed

/-- A change of the result leaves failure as it is. -/
theorem map_eq_ok_iff {change : Value → Result} {step : Except Error Value} {result : Result} :
    change <$> step = .ok result ↔ ∃ value, step = .ok value ∧ change value = result := by
  cases step <;> simp [Functor.map, Except.map]

/-- Returning a value succeeds with that value alone. -/
@[simp] theorem pure_eq_ok_iff {value result : Value} :
    (pure value : Except Error Value) = .ok result ↔ value = result := by
  simp [Pure.pure, Except.pure]

/-- All that a step can fail with has a property. -/
def FailsOnly (holds : Error → Prop) (step : Except Error Value) : Prop :=
  ∀ failure, step = .error failure → holds failure

namespace FailsOnly

variable {holds : Error → Prop}

/-- Success is no failure. -/
theorem ok {value : Value} : FailsOnly holds (.ok value) := by
  -- There is no failure of which the property would have to hold.
  intro failure failed
  cases failed

/-- A failure with the property is the only one of its step. -/
theorem error {failure : Error} (own : holds failure) :
    FailsOnly holds (.error failure : Except Error Value) := by
  -- Both failures are those of one outcome.
  intro other same
  obtain rfl := Except.error.inj same
  exact own

/-- A chain of steps fails where one of them does. -/
theorem bind {first : Except Error Value} {second : Value → Except Error Result}
    (here : FailsOnly holds first) (after : ∀ value, FailsOnly holds (second value)) :
    FailsOnly holds (first >>= second) := by
  -- The chain stops at the failure of the first step, or it gets to the second.
  intro failure failed
  rcases bind_eq_error_iff.1 failed with firstFails | ⟨value, _, secondFails⟩
  · exact here failure firstFails
  · exact after value failure secondFails

/-- A change of the result does not fail. -/
theorem map {step : Except Error Value} {change : Value → Result} (only : FailsOnly holds step) :
    FailsOnly holds (step.map change) := by
  -- There is a failure after the change where there was one before.
  cases step with
  | ok value => exact ok
  | error failure => exact error (only failure rfl)

/-- What follows from the property holds of the failures as well. -/
theorem mono {weaker : Error → Prop} {step : Except Error Value} (only : FailsOnly holds step)
    (follows : ∀ failure, holds failure → weaker failure) : FailsOnly weaker step :=
  fun failure failed => follows failure (only failure failed)

end FailsOnly

end OverlaySheet
