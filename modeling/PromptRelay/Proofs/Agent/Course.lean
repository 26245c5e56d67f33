import PromptRelay.Proofs.Agent.Recording

/-!
Contract: the order in which a run makes its calls.

Owns:
- the phases of a run, and the one call that each of them allows;
- where a run gets by a call, which depends on nothing but what the call comes to
  and whether the run is cancelled by then;
- that the calls of every run lead from phase to phase, up to the phase that its
  outcome tells.

Does not own: what follows from that for calls far apart.

A step of an agent is said to follow a course if its calls lead from one phase to
another. Such steps compose, so that each function of the agent is looked at once.
-/

namespace PromptRelay.Agent

/-- Where a run stands between two calls. -/
inductive Phase where
  /-- Before a cycle. -/
  | consuming
  /-- In a round, with the given number of rounds to come after it. -/
  | asking (batch : List Message) (prompt : Prompt) (rounds : Nat)
  | producing (batch : List Message) (rounds : Nat) (message : Message)
  /-- After the rounds of a cycle. -/
  | flushing
  /-- After the cycles, which have come to the given result. -/
  | ending (result : Except AgentError Unit)
  | finished (outcome : Outcome AgentError Unit)
  /-- A call does not return, or a batch cannot be rendered without a crash. -/
  | standing (halt : Halt)

namespace Phase

/-- The phase after a look at the cancellation. -/
def unlessCancelled (isCancelled : Bool) (phase : Phase) : Phase :=
  if isCancelled then .ending (.ok ()) else phase

/-- The phase after a step that may fail or not return. -/
def after (resume : α → Phase) : Outcome AgentError α → Phase
  | .done value => resume value
  | .failed error => .ending (.error error)
  | .halted halt => .standing halt

end Phase

/-- What a run comes to that is terminated. A failure of its cycles is told rather
than one of the termination. -/
def concluded (result : Except AgentError Unit) (terminated : Outcome MessengerError Unit) :
    Outcome AgentError Unit :=
  match result, terminated with
  | _, .halted halt => .halted halt
  | .ok (), terminated => terminated.mapError .messenger
  | .error error, _ => .failed error

section

variable (agent : Agent σ)

/-- At the beginning of the rounds that a batch is still to be answered in. -/
def answering (batch : List Message) : (rounds : Nat) → Phase
  | 0 => .flushing
  | rounds + 1 =>
    match agent.renderer.render batch with
    | .ok prompt => .asking batch prompt rounds
    | .error (.failed error) => .ending (.error (.prompt error))
    | .error (.crashed crash) => .standing (.crashed crash)

/-- With an answer to a batch, or none. -/
def answered (batch : List Message) (rounds : Nat) : Option Message → Phase
  | none => .flushing
  | some message => .producing batch rounds message

/-- With a completion, which is to be interpreted. -/
def interpreting (batch : List Message) (prompt : Prompt) (rounds : Nat)
    (completion : Option Message) (isCancelled : Bool) : Phase :=
  match interpret prompt.operator completion batch with
  | .ok answer => (answered batch rounds answer).unlessCancelled isCancelled
  | .error error => .ending (.error (.interpretation error))

/-- After an attempt to consume, which a cancellation puts an end to. -/
def consumed (outcome : Outcome MessengerError (List Message)) (isCancelled : Bool) : Phase :=
  match outcome with
  | .done batch => (agent.answering batch agent.sinkMinimum).unlessCancelled isCancelled
  | .failed error => .ending (.error (.messenger error))
  | .pending => (Phase.standing .waiting).unlessCancelled isCancelled
  | .crashed crash => .standing (.crashed crash)

/-- The call that a phase allows, and the phase after it. -/
inductive Next : Phase → Entry → Phase → Prop where
  | consumeBatch (outcome isCancelled) :
      Next .consuming ⟨.consumeBatch outcome, isCancelled⟩ (agent.consumed outcome isCancelled)
  | complete (batch prompt rounds outcome isCancelled) :
      Next (.asking batch prompt rounds) ⟨.complete prompt.inputs outcome, isCancelled⟩
        (.after (interpreting batch prompt rounds · isCancelled)
          (outcome.mapError .completion))
  | produce (batch rounds message outcome isCancelled) :
      Next (.producing batch rounds message) ⟨.produce message outcome, isCancelled⟩
        (.after (fun _ => (agent.answering batch rounds).unlessCancelled isCancelled)
          (outcome.mapError .messenger))
  | flush (outcome isCancelled) :
      Next .flushing ⟨.flush outcome, isCancelled⟩
        (.after (fun _ => Phase.consuming.unlessCancelled isCancelled)
          (outcome.mapError .messenger))
  | terminate (result outcome isCancelled) :
      Next (.ending result) ⟨.terminate outcome, isCancelled⟩ (.finished (concluded result outcome))

/-- Calls that lead from one phase to another. -/
inductive Course : Phase → List Entry → Phase → Prop where
  | nil (phase) : Course phase [] phase
  | cons {before between after entry entries} (next : Next agent before entry between)
      (rest : Course between entries after) : Course before (entry :: entries) after

end

namespace Course

variable {agent : Agent σ} {before between after : Phase} {earlier later : List Entry}

theorem single {entry : Entry} (next : Next agent before entry after) :
    Course agent before [entry] after :=
  .cons next (.nil after)

theorem append (left : Course agent before earlier between)
    (right : Course agent between later after) :
    Course agent before (earlier ++ later) after := by
  induction left with
  | nil _ => exact right
  | cons next _ inductionHypothesis => exact .cons next (inductionHypothesis right)

theorem exists_between (course : Course agent before (earlier ++ later) after) :
    ∃ between, Course agent before earlier between ∧ Course agent between later after := by
  induction earlier generalizing before with
  | nil => exact ⟨before, .nil before, course⟩
  | cons entry earlier inductionHypothesis =>
      cases course with
      | cons next rest =>
          obtain ⟨between, left, right⟩ := inductionHypothesis rest
          exact ⟨between, .cons next left, right⟩

/-- Around a call, a course consists of what leads to it, itself, and the rest. -/
theorem exists_next {entry : Entry}
    (course : Course agent before (earlier ++ entry :: later) after) :
    ∃ origin target, Course agent before earlier origin ∧ Next agent origin entry target ∧
      Course agent target later after := by
  obtain ⟨between, left, right⟩ := course.exists_between
  cases right with
  | cons next rest => exact ⟨between, _, left, next, rest⟩

/-- What holds of the calls so far and the phase, and is kept by each call, holds
after a course. -/
theorem invariant {Holds : List Entry → Phase → Prop}
    (keeps : ∀ {entries before entry after}, Holds entries before →
      Next agent before entry after → Holds (entries ++ [entry]) after)
    (course : Course agent before later after) (initial : Holds earlier before) :
    Holds (earlier ++ later) after := by
  induction course generalizing earlier with
  | nil _ => simpa using initial
  | cons next _ inductionHypothesis =>
      have reached := inductionHypothesis (keeps initial next)
      simpa using reached

/-- A run that is finished makes no calls. -/
theorem eq_nil_of_finished {outcome : Outcome AgentError Unit}
    (course : Course agent (.finished outcome) later after) :
    later = [] ∧ after = .finished outcome := by
  cases course with
  | nil _ => exact ⟨rfl, rfl⟩
  | cons next _ => cases next

/-- Nor does a run that does not go on. -/
theorem eq_nil_of_standing {halt : Halt} (course : Course agent (.standing halt) later after) :
    later = [] ∧ after = .standing halt := by
  cases course with
  | nil _ => exact ⟨rfl, rfl⟩
  | cons next _ => cases next

end Course

/-! ## Steps that follow a course -/

/-- The phase in which a step leaves a run. A run that does not go on waits for a
call, has crashed, or waits for a cycle that is not looked at. -/
inductive Arrives (resume : α → Phase) : Outcome AgentError α → Phase → Prop where
  | done (value) : Arrives resume (.done value) (resume value)
  | failed (error) : Arrives resume (.failed error) (.ending (.error error))
  | standing (halt) : Arrives resume (.halted halt) (.standing halt)
  | consuming : Arrives resume .pending .consuming

theorem arrives_after (resume : α → Phase) (outcome : Outcome AgentError α) :
    Arrives resume outcome (.after resume outcome) := by
  cases outcome with
  | done value => exact .done value
  | failed error => exact .failed error
  | halted halt => exact .standing halt

/-- The calls of a step lead from one phase to that in which a run resumes with
its value. Both phases may depend on whether the run is cancelled by then. -/
def Follows (agent : Agent σ) (start : Bool → Phase) (step : Step (Recording σ) α)
    (resume : α → Bool → Phase) : Prop :=
  ∀ recording, ∃ added last,
    (step recording).2.entries = recording.entries ++ added ∧
    Course agent (start (agent.isCancelled recording.state)) added last ∧
    Arrives (resume · (agent.isCancelled (step recording).2.state)) (step recording).1 last

namespace Follows

variable {agent : Agent σ} {start : Bool → Phase}

theorem pure (value : α) (resume : α → Bool → Phase) :
    Follows agent (resume value) (Pure.pure value) resume := by
  intro recording
  exact ⟨[], _, by simp, .nil _, .done value⟩

theorem ofExcept {result : Except ε α} {toError : ε → AgentError}
    {resume : α → Bool → Phase}
    (done : ∀ value isCancelled, result = .ok value → start isCancelled = resume value isCancelled)
    (failed : ∀ error isCancelled, result = .error error →
      start isCancelled = .ending (.error (toError error))) :
    Follows agent start (Action.ofExcept (result.mapError toError)) resume := by
  intro recording
  refine ⟨[], _, by simp, .nil _, ?_⟩
  cases result with
  | ok value =>
      rw [done value _ rfl]
      exact .done value
  | error error =>
      rw [failed error _ rfl]
      exact .failed (toError error)

theorem ofComputation {result : Except (Stop ε) α} {toError : ε → AgentError}
    {resume : α → Bool → Phase}
    (done : ∀ value isCancelled, result = .ok value → start isCancelled = resume value isCancelled)
    (failed : ∀ error isCancelled, result = .error (.failed error) →
      start isCancelled = .ending (.error (toError error)))
    (crashed : ∀ crash isCancelled, result = .error (.crashed crash) →
      start isCancelled = .standing (.crashed crash)) :
    Follows agent start (Action.ofComputation (result.mapError (.map toError))) resume := by
  intro recording
  refine ⟨[], _, by simp, .nil _, ?_⟩
  rcases result with (error | crash) | value
  · rw [failed error _ rfl]
    exact .failed (toError error)
  · rw [crashed crash _ rfl]
    exact .standing (.crashed crash)
  · rw [done value _ rfl]
    exact .done value

theorem bind {step : Step (Recording σ) α} {next : α → Step (Recording σ) β}
    {middle : α → Bool → Phase} {resume : β → Bool → Phase}
    (first : Follows agent start step middle)
    (rest : ∀ value, Follows agent (middle value) (next value) resume) :
    Follows agent start (step >>= next) resume := by
  intro recording
  obtain ⟨added, last, noted, course, arrives⟩ := first recording
  rw [Action.bind_apply]
  rcases result : step recording with ⟨outcome, between⟩
  rw [result] at noted arrives
  cases arrives with
  | done value =>
      obtain ⟨more, last, notedMore, courseMore, arrivesMore⟩ := rest value between
      refine ⟨added ++ more, last, ?_, course.append courseMore, arrivesMore⟩
      rw [notedMore, noted, List.append_assoc]
  | failed error => exact ⟨added, _, noted, course, .failed error⟩
  | standing halt => exact ⟨added, _, noted, course, .standing halt⟩
  | consuming => exact ⟨added, _, noted, course, .consuming⟩

/-- Where a step goes on that has no value if the run is cancelled. -/
def orEnding (resume : α → Bool → Phase) : Option α → Bool → Phase
  | none, _ => .ending (.ok ())
  | some value, isCancelled => resume value isCancelled

theorem unlessCancelled {next : Step (Recording σ) (Option α)} {resume : α → Bool → Phase}
    (follows : Follows agent start next (orEnding resume)) :
    Follows agent (fun isCancelled => (start isCancelled).unlessCancelled isCancelled)
      (agent.recorded.unlessCancelled next) (orEnding resume) := by
  intro recording
  rw [unlessCancelled_apply]
  change ∃ added last, _ ∧ Course agent (Phase.unlessCancelled _ _) added last ∧ _
  cases cancelled : agent.isCancelled recording.state with
  | true =>
      have noticed : agent.recorded.isCancelled recording = true := cancelled
      rw [if_pos noticed]
      exact ⟨[], _, by simp, .nil _, .done none⟩
  | false =>
      have noticed : ¬ agent.recorded.isCancelled recording = true := by
        simpa [recorded] using cancelled
      rw [if_neg noticed]
      have followed := follows recording
      rw [cancelled] at followed
      exact followed

theorem tell (resume : Bool → Phase) (told : Report) :
    Follows agent resume (agent.recorded.tell told) (fun _ => resume) := by
  intro recording
  refine ⟨[], _, by simp [Agent.tell, recorded], .nil _, ?_⟩
  have unchanged := agent.isCancelled_report told recording.state
  rw [← unchanged]
  exact .done ()

/-- A call follows the course if each of its outcomes is provided for. -/
theorem noting {call : Outcome ε α → Call} {action : Action ε σ α} {phase : Phase}
    {toError : ε → AgentError} {resume : α → Bool → Phase}
    (next : ∀ outcome isCancelled, Next agent phase ⟨call outcome, isCancelled⟩
      (.after (resume · isCancelled) (outcome.mapError toError))) :
    Follows agent (fun _ => phase) ((agent.noting call action).mapError toError) resume := by
  intro recording
  exact ⟨_, _, rfl, .single (next _ _), arrives_after _ _⟩

end Follows

/-! ## The functions of an agent -/

/-- Where a run goes on after the rounds of a cycle. -/
def afterRounds : Option Nat → Bool → Phase :=
  Follows.orEnding fun _ isCancelled => Phase.flushing.unlessCancelled isCancelled

/-- Where a run goes on after a cycle. -/
def afterCycle : Option Unit → Bool → Phase :=
  Follows.orEnding fun _ isCancelled => Phase.consuming.unlessCancelled isCancelled

section

variable (agent : Agent σ)

/-- Where a run goes on after consuming. -/
def afterBatch : Option (List Message) → Bool → Phase :=
  Follows.orEnding fun batch isCancelled =>
    (agent.answering batch agent.sinkMinimum).unlessCancelled isCancelled

theorem tellCompletion_follows (completion : Option Message) (resume : Bool → Phase) :
    Follows agent resume (agent.recorded.tellCompletion completion) (fun _ => resume) := by
  unfold tellCompletion
  split
  · exact .tell resume _
  · exact .pure () (fun _ => resume)

theorem answer_follows (batch : List Message) (rounds : Nat) :
    Follows agent (fun _ => agent.answering batch (rounds + 1)) (agent.recorded.answer batch)
      (fun answer isCancelled =>
        (answered batch rounds answer).unlessCancelled isCancelled) := by
  have rendering : Follows agent (fun _ => agent.answering batch (rounds + 1))
      (.ofComputation ((agent.recorded.renderer.render batch).mapError (.map .prompt)))
      (fun prompt _ => .asking batch prompt rounds) := by
    change Follows agent _ (.ofComputation ((agent.renderer.render batch).mapError _)) _
    apply Follows.ofComputation
    · intro prompt _ rendered
      simp only [answering, rendered]
    · intro error _ failed
      simp only [answering, failed]
    · intro crash _ crashed
      simp only [answering, crashed]
  refine rendering.bind fun prompt => ?_
  refine Follows.bind (.noting (.complete batch prompt rounds)) fun completion => ?_
  refine Follows.bind (agent.tellCompletion_follows completion _) fun _ => ?_
  apply Follows.ofExcept
  · intro answer _ interpreted
    simp only [interpreting, interpreted]
  · intro error _ failed
    simp only [interpreting, failed]

theorem answerRounds_follows (batch : List Message) (rounds produced : Nat) :
    Follows agent
      (fun isCancelled => (agent.answering batch rounds).unlessCancelled isCancelled)
      (agent.recorded.answerRounds batch rounds produced) afterRounds := by
  induction rounds generalizing produced with
  | zero => exact .pure (some produced) afterRounds
  | succ rounds inductionHypothesis =>
      apply Follows.unlessCancelled
      refine Follows.bind (agent.answer_follows batch rounds) fun answer => ?_
      cases answer with
      | none => exact .pure (some produced) afterRounds
      | some message =>
          apply Follows.unlessCancelled
          refine Follows.bind (.noting (.produce batch rounds message)) fun _ => ?_
          exact inductionHypothesis (produced + 1)

theorem nextBatch_follows :
    Follows agent (fun isCancelled => Phase.consuming.unlessCancelled isCancelled)
      agent.recorded.nextBatch agent.afterBatch := by
  apply Follows.unlessCancelled
  intro recording
  rcases result : agent.messenger.consumeBatch recording.state with ⟨outcome, after⟩
  have noted : agent.recorded.messenger.consumeBatch recording =
      (outcome, { state := after, entries := recording.entries ++
        [{ call := .consumeBatch outcome, isCancelled := agent.isCancelled after }] }) := by
    simp only [recorded, noting, result]
  have course : Course agent .consuming
      [{ call := .consumeBatch outcome, isCancelled := agent.isCancelled after }]
      (agent.consumed outcome (agent.isCancelled after)) :=
    .single (.consumeBatch outcome _)
  simp only [noted]
  cases outcome with
  | done batch => exact ⟨_, _, rfl, course, .done (some batch)⟩
  | failed error => exact ⟨_, _, rfl, course, .failed _⟩
  | halted halt =>
      cases halt with
      | crashed crash => exact ⟨_, _, rfl, course, .standing (.crashed crash)⟩
      | waiting =>
          refine ⟨_, _, rfl, course, ?_⟩
          -- Only a cancellation puts an end to a call that is waited for.
          change Arrives _ (if agent.isCancelled after then .done none else .pending) _
          cases agent.isCancelled after with
          | true => exact .done none
          | false => exact .standing .waiting

theorem cycle_follows :
    Follows agent (fun isCancelled => Phase.consuming.unlessCancelled isCancelled)
      agent.recorded.cycle afterCycle := by
  refine Follows.bind agent.nextBatch_follows fun batch => ?_
  cases batch with
  | none => exact .pure none afterCycle
  | some batch =>
      refine Follows.bind (.tell _ _) fun _ => ?_
      refine Follows.bind (agent.answerRounds_follows batch _ 0) fun produced => ?_
      cases produced with
      | none => exact .pure none afterCycle
      | some produced =>
          apply Follows.unlessCancelled
          refine Follows.bind (.noting .flush) fun _ => ?_
          refine Follows.bind (.tell _ _) fun _ => ?_
          exact .pure (some ()) afterCycle

theorem cycles_follow (count : Nat) :
    Follows agent (fun isCancelled => Phase.consuming.unlessCancelled isCancelled)
      (agent.recorded.cycles count) (fun _ _ => .ending (.ok ())) := by
  induction count with
  | zero =>
      intro recording
      refine ⟨[], _, by simp [cycles], .nil _, ?_⟩
      change Arrives _ (if agent.isCancelled recording.state then .done () else .pending) _
      cases agent.isCancelled recording.state with
      | true => exact .done ()
      | false => exact .consuming
  | succ count inductionHypothesis =>
      refine Follows.bind agent.cycle_follows fun ended => ?_
      cases ended with
      | none => exact .pure () fun _ _ => .ending (.ok ())
      | some _ => exact inductionHypothesis

end

/-! ## Runs -/

/-- What a run comes to that gets to a phase and no further. -/
inductive Closes : Phase → Outcome AgentError Unit → Prop where
  | finished (outcome) : Closes (.finished outcome) outcome
  | standing (halt) : Closes (.standing halt) (.halted halt)
  | consuming : Closes .consuming .pending

theorem finish_course (agent : Agent σ) (result : Except AgentError Unit)
    (recording : Recording σ) :
    ∃ added last, (agent.recorded.finish result recording).2.entries = recording.entries ++ added ∧
      Course agent (.ending result) added last ∧
      Closes last (agent.recorded.finish result recording).1 := by
  rcases terminated : agent.messenger.terminate recording.state with ⟨outcome, after⟩
  have noted : agent.recorded.messenger.terminate recording =
      (outcome, { state := after, entries := recording.entries ++
        [{ call := .terminate outcome, isCancelled := agent.isCancelled after }] }) := by
    simp only [recorded, noting, terminated]
  have course : Course agent (.ending result)
      [{ call := .terminate outcome, isCancelled := agent.isCancelled after }]
      (.finished (concluded result outcome)) :=
    .single (.terminate result outcome _)
  unfold finish
  rw [noted]
  cases result <;> cases outcome <;> exact ⟨_, _, rfl, course, .finished _⟩

/-- What is recorded may go on with the end of a run. -/
theorem Course.finish {agent : Agent σ} {start : Phase} {recording : Recording σ}
    {result : Except AgentError Unit}
    (course : Course agent start recording.entries (.ending result)) :
    ∃ last, Course agent start (agent.recorded.finish result recording).2.entries last ∧
      Closes last (agent.recorded.finish result recording).1 := by
  obtain ⟨added, last, noted, rest, closes⟩ := agent.finish_course result recording
  rw [noted]
  exact ⟨last, course.append rest, closes⟩

/-- The calls of a run lead from its start to a phase that its outcome tells. -/
theorem run_course (agent : Agent σ) (count : Nat) (state : σ) :
    ∃ last, Course agent (Phase.consuming.unlessCancelled (agent.isCancelled state))
        (agent.entries count state) last ∧
      Closes last (agent.run count state).1 := by
  rw [← recorded_run_outcome, entries, run_apply, ← agent.isCancelled_report
    (.started agent.recorded.backendName agent.recorded.sinkMinimum) state]
  change ∃ last, Course agent (Phase.unlessCancelled
    (agent.isCancelled (agent.recorded.report _ { state }).state) _) _ _ ∧ _
  have fresh : (agent.recorded.report
    (.started agent.recorded.backendName agent.recorded.sinkMinimum) { state }).entries = [] := rfl
  generalize agent.recorded.report _ { state } = recording at fresh ⊢
  obtain ⟨added, last, noted, course, arrives⟩ := agent.cycles_follow count recording
  rcases result : agent.recorded.cycles count recording with ⟨outcome, after⟩
  rw [result, fresh, List.nil_append] at noted
  rw [result] at arrives
  subst noted
  cases arrives with
  | done _ => exact course.finish
  | failed error => exact course.finish
  | standing halt => exact ⟨_, course, .standing halt⟩
  | consuming => exact ⟨_, course, .consuming⟩

section

variable {agent : Agent σ} {result : Except AgentError Unit} {last : Phase}
  {outcome : Outcome AgentError Unit}

/-- After its cycles, a run terminates the transport and is finished. -/
theorem Course.terminates {later : List Entry} (course : Course agent (.ending result) later last)
    (closes : Closes last outcome) :
    ∃ terminated isCancelled, later = [⟨.terminate terminated, isCancelled⟩] ∧
      outcome = concluded result terminated := by
  cases course with
  | nil _ => cases closes
  | cons next rest =>
      cases next with
      | terminate _ terminated isCancelled =>
          obtain ⟨rfl, rfl⟩ := rest.eq_nil_of_finished
          cases closes with
          | finished _ => exact ⟨terminated, isCancelled, rfl, rfl⟩

/-- Around a call of a run: the phases that it leads from and to, and the rest. -/
theorem exists_next_of_entries (agent : Agent σ) (count : Nat) (state : σ)
    {earlier later : List Entry} {entry : Entry}
    (made : agent.entries count state = earlier ++ entry :: later) :
    ∃ before after last,
      Course agent (Phase.consuming.unlessCancelled (agent.isCancelled state)) earlier before ∧
      Next agent before entry after ∧ Course agent after later last ∧
      Closes last (agent.run count state).1 := by
  obtain ⟨last, course, closes⟩ := agent.run_course count state
  rw [made] at course
  obtain ⟨before, after, reached, next, rest⟩ := course.exists_next
  exact ⟨before, after, last, reached, next, rest, closes⟩

/-- A termination comes after the cycles, and is the end of a run. -/
theorem exists_ending_of_entries (agent : Agent σ) (count : Nat) (state : σ)
    {earlier later : List Entry} {terminated : Outcome MessengerError Unit} {isCancelled : Bool}
    (made : agent.entries count state = earlier ++ ⟨.terminate terminated, isCancelled⟩ :: later) :
    ∃ result,
      Course agent (Phase.consuming.unlessCancelled (agent.isCancelled state)) earlier
        (.ending result) ∧
      later = [] ∧ (agent.run count state).1 = concluded result terminated := by
  obtain ⟨before, after, last, reached, next, rest, closes⟩ :=
    agent.exists_next_of_entries count state made
  generalize (agent.run count state).1 = outcome at closes ⊢
  cases next with
  | terminate result _ _ =>
      obtain ⟨rfl, rfl⟩ := rest.eq_nil_of_finished
      cases closes
      exact ⟨result, reached, rfl, rfl⟩

end

end PromptRelay.Agent
