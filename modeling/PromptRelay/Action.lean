import PromptRelay.Crash

/-!
Contract: steps that change a state, and what they come to.

Owns:
- the outcomes of a step: a value, an error, or no return at all, be it that the
  step waits for ever or that it crashes;
- sequences of steps, which end at the first that has no value. What has been
  changed until then stays changed.

Does not own: which states and errors there are.
-/

namespace PromptRelay

/-- Why a step does not return. -/
inductive Halt where
  /-- It waits for ever. -/
  | waiting
  | crashed (crash : Crash)
deriving DecidableEq, Repr, Inhabited

/-- What a step comes to. -/
inductive Outcome (ε α : Type) where
  | done (value : α)
  | failed (error : ε)
  /-- The step does not return. -/
  | halted (halt : Halt)
deriving DecidableEq, Repr, Inhabited

namespace Outcome

@[match_pattern] abbrev pending : Outcome ε α := .halted .waiting

@[match_pattern] abbrev crashed (crash : Crash) : Outcome ε α := .halted (.crashed crash)

/-- Whether the step returns, with a value or with an error. -/
def returns : Outcome ε α → Bool
  | .done _ | .failed _ => true
  | .halted _ => false

def ofExcept : Except ε α → Outcome ε α
  | .ok value => .done value
  | .error error => .failed error

/-- What a computation comes to that may crash. -/
def ofComputation : Except (Stop ε) α → Outcome ε α
  | .ok value => .done value
  | .error (.failed error) => .failed error
  | .error (.crashed crash) => .crashed crash

def mapError (f : ε → ε') : Outcome ε α → Outcome ε' α
  | .done value => .done value
  | .failed error => .failed (f error)
  | .halted halt => .halted halt

end Outcome

/-- A step that works on a state of type `σ`. -/
def Action (ε σ α : Type) : Type :=
  σ → Outcome ε α × σ

namespace Action

def done (value : α) : Action ε σ α := fun state => (.done value, state)

def fail (error : ε) : Action ε σ α := fun state => (.failed error, state)

/-- Does not return. -/
def halt (halt : Halt) : Action ε σ α := fun state => (.halted halt, state)

def andThen (first : Action ε σ α) (next : α → Action ε σ β) : Action ε σ β := fun state =>
  match first state with
  | (.done value, state) => next value state
  | (.failed error, state) => (.failed error, state)
  | (.halted halt, state) => (.halted halt, state)

instance : Monad (Action ε σ) where
  pure := done
  bind := andThen

def read : Action ε σ σ := fun state => (.done state, state)

def change (f : σ → σ) : Action ε σ Unit := fun state => (.done (), f state)

def ofExcept (result : Except ε α) : Action ε σ α := fun state => (.ofExcept result, state)

def ofComputation (result : Except (Stop ε) α) : Action ε σ α :=
  fun state => (.ofComputation result, state)

def mapError (f : ε → ε') (action : Action ε σ α) : Action ε' σ α := fun state =>
  let (outcome, state) := action state
  (outcome.mapError f, state)

/-- Runs a step on a part of the state. -/
def onPart (get : τ → σ) (put : σ → τ → τ) (action : Action ε σ α) : Action ε τ α :=
  fun state =>
    let (outcome, part) := action (get state)
    (outcome, put part state)

/-! ## Laws -/

@[simp] theorem pure_apply (value : α) (state : σ) :
    (pure value : Action ε σ α) state = (.done value, state) := rfl

theorem bind_apply (first : Action ε σ α) (next : α → Action ε σ β) (state : σ) :
    (first >>= next) state =
      match first state with
      | (.done value, state) => next value state
      | (.failed error, state) => (.failed error, state)
      | (.halted halt, state) => (.halted halt, state) := rfl

theorem bind_eq_done_iff {first : Action ε σ α} {next : α → Action ε σ β} {state after : σ}
    {value : β} :
    (first >>= next) state = (.done value, after) ↔
      ∃ found between, first state = (.done found, between) ∧
        next found between = (.done value, after) := by
  rw [bind_apply]
  constructor
  · intro course
    split at course
    case h_1 found between stepped => exact ⟨found, between, stepped, course⟩
    case h_2 => cases course
    case h_3 => cases course
  · rintro ⟨found, between, stepped, course⟩
    rw [stepped]
    exact course

theorem mapError_eq_done_iff {f : ε → ε'} {action : Action ε σ α} {state after : σ} {value : α} :
    action.mapError f state = (.done value, after) ↔ action state = (.done value, after) := by
  rw [mapError]
  cases stepped : action state with
  | mk outcome between => cases outcome <;> simp [Outcome.mapError]

@[simp] theorem fail_apply (error : ε) (state : σ) :
    (fail error : Action ε σ α) state = (.failed error, state) := rfl

@[simp] theorem read_apply (state : σ) :
    (read : Action ε σ σ) state = (.done state, state) := rfl

@[simp] theorem change_apply (f : σ → σ) (state : σ) :
    (change f : Action ε σ Unit) state = (.done (), f state) := rfl

@[simp] theorem ofExcept_apply (result : Except ε α) (state : σ) :
    (ofExcept result : Action ε σ α) state = (.ofExcept result, state) := rfl

@[simp] theorem ofComputation_apply (result : Except (Stop ε) α) (state : σ) :
    (ofComputation result : Action ε σ α) state = (.ofComputation result, state) := rfl

end Action

end PromptRelay
