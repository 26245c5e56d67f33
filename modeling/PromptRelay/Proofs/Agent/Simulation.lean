import PromptRelay.Agent

/-!
Contract: agents that cannot be told apart by what their runs come to.

Owns:
- steps on two kinds of states that keep a relation between the states and come
  to the same;
- asking for a completion together with the report of it;
- simulations of one agent by another, which run by run come to the same.

Does not own: particular simulations.

What matters about a completion is what asking for it comes to and which states it leaves, its
report included. Agents that correspond in this much come to the same run by run, even if one of
them reports more of its completions; a simulation, which reports the same, is a case of that.
-/

namespace PromptRelay

/-! ## Steps -/

namespace Action

theorem bind_assoc (first : Action ε σ α) (next : α → Action ε σ β) (last : β → Action ε σ γ) :
    first >>= next >>= last = first >>= fun value => next value >>= last := by
  funext state
  rw [bind_apply, bind_apply, bind_apply]
  cases first state with
  | mk outcome between => cases outcome <;> rfl

/-- From related states, two steps come to the same and leave related states. -/
def Similar (related : σ → τ → Prop) (left : Action ε σ α) (right : Action ε τ α) : Prop :=
  ∀ leftState rightState, related leftState rightState →
    (left leftState).1 = (right rightState).1 ∧
      related (left leftState).2 (right rightState).2

namespace Similar

variable {related : σ → τ → Prop}

theorem pure (value : α) :
    Similar (ε := ε) related (Pure.pure value) (Pure.pure value) :=
  fun _ _ states => ⟨rfl, states⟩

theorem ofExcept (result : Except ε α) :
    Similar related (Action.ofExcept result) (Action.ofExcept result) :=
  fun _ _ states => ⟨rfl, states⟩

theorem ofComputation (result : Except (Stop ε) α) :
    Similar related (Action.ofComputation result) (Action.ofComputation result) :=
  fun _ _ states => ⟨rfl, states⟩

theorem halt (halt : Halt) :
    Similar (ε := ε) (α := α) related (Action.halt halt) (Action.halt halt) :=
  fun _ _ states => ⟨rfl, states⟩

theorem bind {left : Action ε σ α} {right : Action ε τ α}
    {leftNext : α → Action ε σ β} {rightNext : α → Action ε τ β}
    (first : Similar related left right)
    (next : ∀ value, Similar related (leftNext value) (rightNext value)) :
    Similar related (left >>= leftNext) (right >>= rightNext) := by
  intro leftState rightState states
  obtain ⟨same, after⟩ := first leftState rightState states
  rw [bind_apply, bind_apply]
  rcases leftResult : left leftState with ⟨leftOutcome, leftAfter⟩
  rcases rightResult : right rightState with ⟨rightOutcome, rightAfter⟩
  rw [leftResult, rightResult] at same after
  subst same
  cases leftOutcome with
  | done value => exact next value leftAfter rightAfter after
  | failed error => exact ⟨rfl, after⟩
  | halted halt => exact ⟨rfl, after⟩

theorem mapError {left : Action ε σ α} {right : Action ε τ α}
    (similar : Similar related left right) (f : ε → ε') :
    Similar related (left.mapError f) (right.mapError f) := by
  intro leftState rightState states
  obtain ⟨same, after⟩ := similar leftState rightState states
  exact ⟨congrArg (Outcome.mapError f) same, after⟩

theorem change {leftChange : σ → σ} {rightChange : τ → τ}
    (keeps : ∀ leftState rightState, related leftState rightState →
      related (leftChange leftState) (rightChange rightState)) :
    Similar (ε := ε) related (Action.change leftChange) (Action.change rightChange) :=
  fun leftState rightState states => ⟨rfl, keeps leftState rightState states⟩

end Similar

end Action

/-! ## Agents -/

namespace Agent

open PromptRelay.Action (Similar)

/-- Asks for a completion and reports it. -/
def consult (agent : Agent σ) (inputs : List Message) : Step σ (Option Message) := do
  let completion ← (agent.complete inputs).mapError .completion
  agent.tellCompletion completion
  pure completion

theorem answer_eq (agent : Agent σ) (batch : List Message) :
    agent.answer batch = (do
      let prompt ← .ofComputation ((agent.renderer.render batch).mapError (.map .prompt))
      let completion ← agent.consult prompt.inputs
      .ofExcept ((interpret prompt.operator completion batch).mapError .interpretation)) := by
  unfold answer consult
  congr 1
  funext prompt
  rw [Action.bind_assoc]
  congr 1
  funext completion
  rw [Action.bind_assoc]
  rfl

/-- Two agents of the same make whose surroundings answer alike, as long as their states are
related. Their reports of completions are part of what leads from related states to such. -/
structure Correspondence (left : Agent σ) (right : Agent τ) (related : σ → τ → Prop) : Prop where
  renderer : left.renderer = right.renderer
  backendName : left.backendName = right.backendName
  sinkMinimum : left.sinkMinimum = right.sinkMinimum
  isCancelled : ∀ leftState rightState, related leftState rightState →
    left.isCancelled leftState = right.isCancelled rightState
  report : ∀ told, (∀ content, told ≠ .generated content) →
    ∀ leftState rightState, related leftState rightState →
      related (left.report told leftState) (right.report told rightState)
  consumeBatch : Similar related left.messenger.consumeBatch right.messenger.consumeBatch
  produce : ∀ message,
    Similar related (left.messenger.produce message) (right.messenger.produce message)
  flush : Similar related left.messenger.flush right.messenger.flush
  terminate : Similar related left.messenger.terminate right.messenger.terminate
  consult : ∀ inputs, Similar related (left.consult inputs) (right.consult inputs)

namespace Correspondence

variable {left : Agent σ} {right : Agent τ} {related : σ → τ → Prop}

theorem tell (correspondence : Correspondence left right related) {told : Report}
    (other : ∀ content, told ≠ .generated content) :
    Similar related (left.tell told) (right.tell told) :=
  .change (correspondence.report told other)

theorem unlessCancelled (correspondence : Correspondence left right related)
    {leftNext : Step σ (Option α)} {rightNext : Step τ (Option α)}
    (next : Similar related leftNext rightNext) :
    Similar related (left.unlessCancelled leftNext) (right.unlessCancelled rightNext) := by
  intro leftState rightState states
  have same := correspondence.isCancelled leftState rightState states
  rw [unlessCancelled_apply, unlessCancelled_apply, same]
  split
  · exact ⟨rfl, states⟩
  · exact next leftState rightState states

theorem answer (correspondence : Correspondence left right related) (batch : List Message) :
    Similar related (left.answer batch) (right.answer batch) := by
  rw [answer_eq, answer_eq, correspondence.renderer]
  refine .bind (.ofComputation _) fun prompt => ?_
  exact .bind (correspondence.consult prompt.inputs) fun _ => .ofExcept _

theorem answerRounds (correspondence : Correspondence left right related) (batch : List Message)
    (rounds produced : Nat) :
    Similar related (left.answerRounds batch rounds produced)
      (right.answerRounds batch rounds produced) := by
  induction rounds generalizing produced with
  | zero => exact .pure _
  | succ rounds inductionHypothesis =>
      refine correspondence.unlessCancelled (.bind (correspondence.answer batch) fun answer => ?_)
      cases answer with
      | none => exact .pure _
      | some message =>
          refine correspondence.unlessCancelled ?_
          exact .bind ((correspondence.produce message).mapError _) fun _ =>
            inductionHypothesis (produced + 1)

theorem nextBatch (correspondence : Correspondence left right related) :
    Similar related left.nextBatch right.nextBatch := by
  refine correspondence.unlessCancelled fun leftState rightState states => ?_
  obtain ⟨same, after⟩ := correspondence.consumeBatch leftState rightState states
  rcases leftResult : left.messenger.consumeBatch leftState with ⟨leftOutcome, leftAfter⟩
  rcases rightResult : right.messenger.consumeBatch rightState with ⟨rightOutcome, rightAfter⟩
  rw [leftResult, rightResult] at same after
  subst same
  have cancelled := correspondence.isCancelled leftAfter rightAfter after
  cases leftOutcome with
  | done batch => exact ⟨rfl, after⟩
  | failed error => exact ⟨rfl, after⟩
  | halted halt =>
      cases halt with
      | waiting => exact ⟨by simp only [cancelled], after⟩
      | crashed crash => exact ⟨rfl, after⟩

theorem cycle (correspondence : Correspondence left right related) :
    Similar related left.cycle right.cycle := by
  unfold Agent.cycle
  rw [correspondence.sinkMinimum]
  refine .bind correspondence.nextBatch fun batch => ?_
  cases batch with
  | none => exact .pure _
  | some batch =>
      refine .bind (correspondence.tell nofun) fun _ => ?_
      refine .bind (correspondence.answerRounds batch _ 0) fun produced => ?_
      cases produced with
      | none => exact .pure _
      | some produced =>
          refine correspondence.unlessCancelled ?_
          refine .bind (correspondence.flush.mapError _) fun _ => ?_
          exact .bind (correspondence.tell nofun) fun _ => .pure _

theorem cycles (correspondence : Correspondence left right related) (count : Nat) :
    Similar related (left.cycles count) (right.cycles count) := by
  induction count with
  | zero =>
      intro leftState rightState states
      have same := correspondence.isCancelled leftState rightState states
      exact ⟨by simp only [Agent.cycles, same], states⟩
  | succ count inductionHypothesis =>
      refine .bind correspondence.cycle fun ended => ?_
      cases ended with
      | none => exact .pure _
      | some _ => exact inductionHypothesis

theorem finish (correspondence : Correspondence left right related)
    (result : Except AgentError Unit) :
    Similar related (left.finish result) (right.finish result) := by
  intro leftState rightState states
  obtain ⟨same, after⟩ := correspondence.terminate leftState rightState states
  unfold Agent.finish
  rcases leftResult : left.messenger.terminate leftState with ⟨leftOutcome, leftAfter⟩
  rcases rightResult : right.messenger.terminate rightState with ⟨rightOutcome, rightAfter⟩
  rw [leftResult, rightResult] at same after
  subst same
  cases result <;> cases leftOutcome <;>
    first | exact ⟨rfl, after⟩ | exact ⟨rfl, correspondence.report _ (by nofun) _ _ after⟩

/-- Runs from related states come to the same. -/
theorem run (correspondence : Correspondence left right related) (count : Nat) :
    Similar related (left.run count) (right.run count) := by
  intro leftState rightState states
  rw [run_apply, run_apply, correspondence.backendName, correspondence.sinkMinimum]
  have told :=
    correspondence.report (.started right.backendName right.sinkMinimum) nofun _ _ states
  obtain ⟨same, after⟩ := correspondence.cycles count _ _ told
  rcases leftResult : left.cycles count _ with ⟨leftOutcome, leftAfter⟩
  rcases rightResult : right.cycles count _ with ⟨rightOutcome, rightAfter⟩
  rw [leftResult, rightResult] at same after
  subst same
  cases leftOutcome with
  | done _ => exact correspondence.finish (.ok ()) leftAfter rightAfter after
  | failed error => exact correspondence.finish (.error error) leftAfter rightAfter after
  | halted halt => exact ⟨rfl, after⟩

end Correspondence

/-- Two agents of the same make whose surroundings answer alike, as long as their
states are related. -/
structure Simulation (left : Agent σ) (right : Agent τ) (related : σ → τ → Prop) : Prop where
  renderer : left.renderer = right.renderer
  backendName : left.backendName = right.backendName
  sinkMinimum : left.sinkMinimum = right.sinkMinimum
  isVerbose : left.isVerbose = right.isVerbose
  isCancelled : ∀ leftState rightState, related leftState rightState →
    left.isCancelled leftState = right.isCancelled rightState
  report : ∀ told leftState rightState, related leftState rightState →
    related (left.report told leftState) (right.report told rightState)
  consumeBatch : Similar related left.messenger.consumeBatch right.messenger.consumeBatch
  produce : ∀ message,
    Similar related (left.messenger.produce message) (right.messenger.produce message)
  flush : Similar related left.messenger.flush right.messenger.flush
  terminate : Similar related left.messenger.terminate right.messenger.terminate
  complete : ∀ inputs, Similar related (left.complete inputs) (right.complete inputs)

namespace Simulation

variable {left : Agent σ} {right : Agent τ} {related : σ → τ → Prop}

theorem tellCompletion (simulation : Simulation left right related)
    (completion : Option Message) :
    Similar related (left.tellCompletion completion) (right.tellCompletion completion) := by
  unfold Agent.tellCompletion
  rw [simulation.isVerbose]
  cases right.isVerbose <;> cases completion
  case true.some completion => exact .change (simulation.report (.generated completion.content))
  all_goals exact .pure ()

theorem correspondence (simulation : Simulation left right related) :
    Correspondence left right related where
  renderer := simulation.renderer
  backendName := simulation.backendName
  sinkMinimum := simulation.sinkMinimum
  isCancelled := simulation.isCancelled
  report told _ := simulation.report told
  consumeBatch := simulation.consumeBatch
  produce := simulation.produce
  flush := simulation.flush
  terminate := simulation.terminate
  consult inputs := .bind ((simulation.complete inputs).mapError _) fun completion =>
    .bind (simulation.tellCompletion completion) fun _ => .pure completion

/-- Runs from related states come to the same. -/
theorem run (simulation : Simulation left right related) (count : Nat) :
    Similar related (left.run count) (right.run count) :=
  simulation.correspondence.run count

end Simulation

end Agent

end PromptRelay
