import PromptRelay.Messenger.Basic

/-!
Contract: sequences of operations on a messenger, and what they may fail with.

Owns:
- the five operations, what a messenger answers to a sequence of them, and the state that
  it is in afterwards;
- for how many messages there is room, and what a batch is with room and without;
- the class of errors within which a step fails, through sequences of steps and the
  collection of batches;
- that a sequence of operations fails within the class that its operations fail within.

Does not own: particular messengers.
-/

namespace PromptRelay

/-! ## Room -/

/-- Room is made for all messages of a batch at once: each takes 56 bytes, and no allocation
exceeds `2 ^ 63 - 8` bytes. -/
def HasRoom (count : Nat) : Prop :=
  56 * count ≤ 9223372036854775800

instance (count : Nat) : Decidable (HasRoom count) :=
  inferInstanceAs (Decidable (56 * count ≤ 9223372036854775800))

theorem hasRoom_iff {count : Nat} : HasRoom count ↔ count ≤ roomLimit := by
  unfold HasRoom roomLimit
  omega

theorem collect_of_hasRoom {count : Nat} (room : HasRoom count)
    (consume : Transport σ (Option α)) : collect consume count = gather consume count :=
  if_pos (hasRoom_iff.mp room)

theorem collect_of_not_hasRoom {count : Nat} (crowded : ¬ HasRoom count)
    (consume : Transport σ (Option α)) :
    collect consume count = .halt (.crashed .capacity) :=
  if_neg (mt hasRoom_iff.mpr crowded)

/-! ## Errors of steps -/

namespace Action

/-- Whatever state the step starts in, it fails with errors of the class only. -/
def FailsWithin (isAllowed : ε → Prop) (action : Action ε σ α) : Prop :=
  ∀ state error, (action state).1 = .failed error → isAllowed error

namespace FailsWithin

variable {isAllowed : ε → Prop}

theorem pure (value : α) : (pure value : Action ε σ α).FailsWithin isAllowed := by
  intro state error failed
  cases failed

theorem fail {error : ε} (allowed : isAllowed error) :
    (fail error : Action ε σ α).FailsWithin isAllowed := by
  intro state other failed
  cases failed
  exact allowed

theorem halt (halt : Halt) : (Action.halt halt : Action ε σ α).FailsWithin isAllowed := by
  intro state error failed
  cases failed

theorem read : (read : Action ε σ σ).FailsWithin isAllowed := by
  intro state error failed
  cases failed

theorem change (f : σ → σ) : (change f : Action ε σ Unit).FailsWithin isAllowed := by
  intro state error failed
  cases failed

theorem ofExcept {result : Except ε α}
    (allowed : ∀ error, result = .error error → isAllowed error) :
    (ofExcept result : Action ε σ α).FailsWithin isAllowed := by
  intro state error failed
  cases result with
  | ok value => cases failed
  | error cause =>
      cases failed
      exact allowed error rfl

/-- What follows may rely on the value of the first step. -/
theorem bind {first : Action ε σ α} {next : α → Action ε σ β}
    (firstWithin : first.FailsWithin isAllowed)
    (nextWithin : ∀ value, (next value).FailsWithin isAllowed) :
    (first >>= next).FailsWithin isAllowed := by
  intro state error failed
  have course := bind_apply first next state
  rw [course] at failed
  cases stepped : first state with
  | mk outcome between =>
      rw [stepped] at failed
      cases outcome with
      | done value => exact nextWithin value between error failed
      | failed cause =>
          cases failed
          exact firstWithin state error (congrArg Prod.fst stepped)
      | halted halt => cases failed

/-- The errors of the step itself do not matter if all that they become are allowed. -/
theorem mapError {f : ε' → ε} {action : Action ε' σ α} (allowed : ∀ cause, isAllowed (f cause)) :
    (action.mapError f).FailsWithin isAllowed := by
  intro state error failed
  change ((action state).1).mapError f = .failed error at failed
  cases outcome : (action state).1 with
  | done value => rw [outcome] at failed; cases failed
  | failed cause =>
      rw [outcome] at failed
      cases failed
      exact allowed cause
  | halted halt => rw [outcome] at failed; cases failed

theorem onPart {get : τ → σ} {put : σ → τ → τ} {action : Action ε σ α}
    (within : action.FailsWithin isAllowed) :
    (action.onPart get put).FailsWithin isAllowed := by
  intro state error failed
  exact within (get state) error failed

end FailsWithin

end Action

section

variable {isAllowed : MessengerError → Prop} {consume : Transport σ (Option α)}

theorem gather_failsWithin (within : consume.FailsWithin isAllowed) (count : Nat) :
    (gather consume count).FailsWithin isAllowed := by
  induction count with
  | zero => exact .pure []
  | succ count inductionHypothesis =>
      refine .bind within fun found => ?_
      cases found with
      | none => exact .pure []
      | some message => exact .bind inductionHypothesis fun messages => .pure (message :: messages)

theorem collect_failsWithin (within : consume.FailsWithin isAllowed) (count : Nat) :
    (collect consume count).FailsWithin isAllowed := by
  unfold collect
  split
  · exact gather_failsWithin within count
  · exact .halt _

end

/-! ## Operations -/

/-- What a messenger can be asked to do. -/
inductive Operation where
  | consume
  | consumeBatch
  | produce (message : Message)
  | flush
  | terminate
deriving DecidableEq, Repr

/-- What an operation gives that succeeds. -/
inductive Operation.Answer where
  | message (found : Option Message)
  | batch (messages : List Message)
  | nothing
deriving DecidableEq, Repr

namespace Messenger

def perform (messenger : Messenger σ) : Operation → Transport σ Operation.Answer
  | .consume => do
    let found ← messenger.consume
    pure (.message found)
  | .consumeBatch => do
    let messages ← messenger.consumeBatch
    pure (.batch messages)
  | .produce message => do
    messenger.produce message
    pure .nothing
  | .flush => do
    messenger.flush
    pure .nothing
  | .terminate => do
    messenger.terminate
    pure .nothing

/-- What a messenger answers to operations one after the other. The next operation
finds the state that the one before has left, also if that has failed or crashed, or was
given up because it did not return. -/
def answers (messenger : Messenger σ) :
    List Operation → σ → List (Outcome MessengerError Operation.Answer)
  | [], _ => []
  | operation :: operations, state =>
    (messenger.perform operation state).1 ::
      messenger.answers operations (messenger.perform operation state).2

/-- The state that operations one after the other leave behind. -/
def after (messenger : Messenger σ) (operations : List Operation) (state : σ) : σ :=
  operations.foldl (fun state operation => (messenger.perform operation state).2) state

/-- Each operation of a messenger fails with errors of the class only. -/
structure FailsWithin (messenger : Messenger σ) (isAllowed : MessengerError → Prop) : Prop where
  consume : messenger.consume.FailsWithin isAllowed
  consumeBatch : messenger.consumeBatch.FailsWithin isAllowed
  produce : ∀ message, (messenger.produce message).FailsWithin isAllowed
  flush : messenger.flush.FailsWithin isAllowed
  terminate : messenger.terminate.FailsWithin isAllowed

variable {messenger : Messenger σ} {isAllowed : MessengerError → Prop}

theorem FailsWithin.perform (within : messenger.FailsWithin isAllowed) (operation : Operation) :
    (messenger.perform operation).FailsWithin isAllowed := by
  cases operation with
  | consume => exact .bind within.consume fun _ => .pure _
  | consumeBatch => exact .bind within.consumeBatch fun _ => .pure _
  | produce message => exact .bind (within.produce message) fun _ => .pure _
  | flush => exact .bind within.flush fun _ => .pure _
  | terminate => exact .bind within.terminate fun _ => .pure _

/-- In every sequence of operations, those that fail do so within the class. -/
theorem FailsWithin.answers (within : messenger.FailsWithin isAllowed)
    (operations : List Operation) (state : σ) {error : MessengerError}
    (failed : .failed error ∈ messenger.answers operations state) : isAllowed error := by
  induction operations generalizing state with
  | nil => cases failed
  | cons operation operations inductionHypothesis =>
      rw [Messenger.answers, List.mem_cons] at failed
      rcases failed with first | later
      · exact within.perform operation state error first.symm
      · exact inductionHypothesis _ later

end Messenger

end PromptRelay
