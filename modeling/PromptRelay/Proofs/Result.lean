/-!
Contract: sequences of steps that may fail.

Owns:
- what a sequence comes to, given what its first step comes to;
- when a sequence has a value, and when it fails;
- when a step whose failure is told otherwise has a value, and when it fails;
- what a step fails with.

Does not own: steps that change a state.
-/

namespace PromptRelay.Result

@[simp] theorem ok_bind (value : α) (next : α → Except ε β) :
    (Except.ok value >>= next) = next value := rfl

@[simp] theorem error_bind (error : ε) (next : α → Except ε β) :
    (Except.error error >>= next) = Except.error error := rfl

theorem bind_eq_ok_iff {first : Except ε α} {next : α → Except ε β} {value : β} :
    (first >>= next) = .ok value ↔ ∃ between, first = .ok between ∧ next between = .ok value := by
  cases first <;> simp

/-- A sequence fails with the failure of its first step, or of what follows. -/
theorem bind_eq_error_iff {first : Except ε α} {next : α → Except ε β} {error : ε} :
    (first >>= next) = .error error ↔
      first = .error error ∨ ∃ between, first = .ok between ∧ next between = .error error := by
  cases first <;> simp

@[simp] theorem mapError_ok (wrap : ε → ε') (value : α) :
    (Except.ok value).mapError wrap = Except.ok value := rfl

@[simp] theorem mapError_error (wrap : ε → ε') (error : ε) :
    (Except.error error : Except ε α).mapError wrap = Except.error (wrap error) := rfl

theorem mapError_eq_ok_iff {step : Except ε α} {wrap : ε → ε'} {value : α} :
    step.mapError wrap = .ok value ↔ step = .ok value := by
  cases step <;> simp

theorem mapError_eq_error_iff {step : Except ε α} {wrap : ε → ε'} {error : ε'} :
    step.mapError wrap = .error error ↔ ∃ cause, step = .error cause ∧ error = wrap cause := by
  cases step <;> simp [eq_comm]

/-- A step that is seen to have a value has one to go on with. -/
theorem exists_eq_ok_of_isOk {step : Except ε α} (isOk : step.isOk = true) :
    ∃ value, step = .ok value := by
  cases step with
  | ok value => exact ⟨value, rfl⟩
  | error error => cases isOk

theorem toOption_eq_some_iff {step : Except ε α} {value : α} :
    step.toOption = some value ↔ step = .ok value := by
  cases step <;> simp [Except.toOption]

/-- What a step fails with. -/
def failure? : Except ε α → Option ε
  | .ok _ => none
  | .error error => some error

@[simp] theorem failure?_ok (value : α) : failure? (.ok value : Except ε α) = none := rfl

@[simp] theorem failure?_error (error : ε) : failure? (.error error : Except ε α) = some error :=
  rfl

theorem failure?_eq_some_iff {step : Except ε α} {error : ε} :
    failure? step = some error ↔ step = .error error := by
  cases step <;> simp

end PromptRelay.Result
