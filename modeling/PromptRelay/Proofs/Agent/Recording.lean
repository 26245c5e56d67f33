import PromptRelay.Proofs.Agent.Simulation

/-!
Contract: the calls that a run of an agent makes.

Owns:
- calls with their arguments and what they come to, and whether the run is
  cancelled by then;
- the agent that notes the calls of another one, and that noting them changes
  nothing else;
- that a run which returns does not depend on how many cycles are looked at.

Does not own: which calls a run makes, and in which order.

The calls are noted beside the state of the surroundings, so that they are the
same whatever these surroundings are: scripts, brokers or anything else.
-/

namespace PromptRelay.Agent

/-- A call of a run, and what it comes to. -/
inductive Call where
  | consumeBatch (outcome : Outcome MessengerError (List Message))
  | complete (inputs : List Message) (outcome : Outcome CompletionError (Option Message))
  | produce (message : Message) (outcome : Outcome MessengerError Unit)
  | flush (outcome : Outcome MessengerError Unit)
  | terminate (outcome : Outcome MessengerError Unit)
deriving DecidableEq, Repr

/-- What is called. -/
inductive Callee where
  | consumeBatch
  | complete
  | produce
  | flush
  | terminate
deriving DecidableEq, Repr

def Call.callee : Call → Callee
  | .consumeBatch _ => .consumeBatch
  | .complete _ _ => .complete
  | .produce _ _ => .produce
  | .flush _ => .flush
  | .terminate _ => .terminate

/-- A call as it is noted. -/
structure Entry where
  call : Call
  /-- Whether the run is cancelled at the end of the call. -/
  isCancelled : Bool
deriving DecidableEq, Repr

/-- A state, and the calls that were made until then. -/
structure Recording (σ : Type) where
  state : σ
  entries : List Entry := []

/-- Performs a step and notes it as a call. -/
def noting (agent : Agent σ) (call : Outcome ε α → Call) (action : Action ε σ α) :
    Action ε (Recording σ) α := fun recording =>
  let result := action recording.state
  let entry : Entry := { call := call result.1, isCancelled := agent.isCancelled result.2 }
  (result.1, { state := result.2, entries := recording.entries ++ [entry] })

/-- The agent that also notes its calls. -/
def recorded (agent : Agent σ) : Agent (Recording σ) where
  messenger := {
    sourceMinimum := agent.messenger.sourceMinimum
    consume := agent.messenger.consume.onPart Recording.state
      fun state recording => { recording with state }
    consumeBatch := agent.noting .consumeBatch agent.messenger.consumeBatch
    produce message := agent.noting (.produce message) (agent.messenger.produce message)
    flush := agent.noting .flush agent.messenger.flush
    terminate := agent.noting .terminate agent.messenger.terminate }
  complete inputs := agent.noting (.complete inputs) (agent.complete inputs)
  backendName := agent.backendName
  renderer := agent.renderer
  sinkMinimum := agent.sinkMinimum
  isVerbose := agent.isVerbose
  isCancelled recording := agent.isCancelled recording.state
  report told recording := { recording with state := agent.report told recording.state }
  isCancelled_report told recording := agent.isCancelled_report told recording.state

/-- The calls of a run, in order. -/
def entries (agent : Agent σ) (count : Nat) (state : σ) : List Entry :=
  (agent.recorded.run count { state }).2.entries

def calls (agent : Agent σ) (count : Nat) (state : σ) : List Call :=
  (agent.entries count state).map Entry.call

/-! ## Noting changes nothing -/

/-- A recording is of a state. -/
def IsOf (recording : Recording σ) (state : σ) : Prop :=
  recording.state = state

theorem noting_similar (agent : Agent σ) (call : Outcome ε α → Call)
    (action : Action ε σ α) : Action.Similar IsOf (agent.noting call action) action := by
  intro recording state same
  subst same
  exact ⟨rfl, rfl⟩

theorem recorded_simulation (agent : Agent σ) :
    Simulation agent.recorded agent IsOf where
  renderer := rfl
  backendName := rfl
  sinkMinimum := rfl
  isVerbose := rfl
  isCancelled _ _ same := congrArg agent.isCancelled same
  report told _ _ same := congrArg (agent.report told) same
  consumeBatch := agent.noting_similar _ _
  produce _ := agent.noting_similar _ _
  flush := agent.noting_similar _ _
  terminate := agent.noting_similar _ _
  complete _ := agent.noting_similar _ _

/-- A run whose calls are noted comes to the same as one whose calls are not. -/
theorem recorded_run_outcome (agent : Agent σ) (count : Nat) (state : σ) :
    (agent.recorded.run count { state }).1 = (agent.run count state).1 :=
  (agent.recorded_simulation.run count { state } state rfl).1

/-! ## The number of cycles -/

theorem cycles_succ_of_returns (agent : Agent σ) (count : Nat) (state : σ)
    (returns : (agent.cycles count state).1.returns = true) :
    agent.cycles (count + 1) state = agent.cycles count state := by
  induction count generalizing state with
  | zero =>
      -- Only a run that is cancelled returns before its first cycle.
      cases cancelled : agent.isCancelled state with
      | false => simp [cycles, cancelled, Outcome.returns] at returns
      | true =>
          have stopped : agent.nextBatch state = (.done none, state) := by
            rw [nextBatch_apply, if_pos cancelled]
          simp [cycles, cycle, Action.bind_apply, stopped, cancelled]
  | succ count inductionHypothesis =>
      rw [cycles, cycles, Action.bind_apply, Action.bind_apply]
      rw [cycles, Action.bind_apply] at returns
      rcases result : agent.cycle state with ⟨outcome, after⟩
      rw [result] at returns
      cases outcome with
      | failed error => rfl
      | halted halt => rfl
      | done ended =>
          cases ended with
          | none => rfl
          | some _ => exact inductionHypothesis after returns

/-- A run that returns is finished: it does not change if more cycles are looked at. -/
theorem run_eq_of_returns (agent : Agent σ) {count larger : Nat} (state : σ)
    (more : count ≤ larger) (returns : (agent.run count state).1.returns = true) :
    agent.run larger state = agent.run count state := by
  induction more with
  | refl => rfl
  | @step larger _ inductionHypothesis =>
      rw [← inductionHypothesis, run_apply] at returns
      rw [← inductionHypothesis, run_apply, run_apply, cycles_succ_of_returns]
      rcases result : agent.cycles larger _ with ⟨outcome, after⟩
      rw [result] at returns
      cases outcome with
      | done _ => rfl
      | failed error => rfl
      | halted halt => exact returns

/-- So do its calls. -/
theorem entries_eq_of_returns (agent : Agent σ) {count larger : Nat} (state : σ)
    (more : count ≤ larger) (returns : (agent.run count state).1.returns = true) :
    agent.entries larger state = agent.entries count state := by
  rw [← recorded_run_outcome] at returns
  unfold entries
  rw [agent.recorded.run_eq_of_returns _ more returns]

end PromptRelay.Agent
