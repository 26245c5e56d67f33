import PromptRelay.Proofs.Agent.Course

/-!
Contract: the calls of a run, cycle by cycle.

Owns:
- the calls of a cycle that is flushed, and of a part of one;
- what the calls of the cycle under way are in each phase of a run, and that each
  call keeps to it.

Does not own: what runs come to.
-/

namespace PromptRelay.Agent

/-- A completion, and the answer that it stands for. -/
structure Round where
  inputs : List Message
  reply : Option Message
  message : Message
deriving DecidableEq, Repr, Inhabited

def Round.calls (round : Round) : List Call :=
  [.complete round.inputs (.done round.reply), .produce round.message (.done ())]

section

variable (agent : Agent σ)

/-- The calls by which the rounds of a cycle end after the given number of answers:
none if there are no rounds left, or a completion that stands for no answer. -/
inductive RoundsEnd (batch : List Message) (answers : Nat) : List Call → Prop where
  | exhausted (all : answers = agent.sinkMinimum) : RoundsEnd batch answers []
  | unanswered {prompt : Prompt} {reply : Option Message}
      (fewer : answers < agent.sinkMinimum)
      (rendered : agent.renderer.render batch = .ok prompt)
      (absent : interpret prompt.operator reply batch = .ok none) :
      RoundsEnd batch answers [.complete prompt.inputs (.done reply)]

/-- The calls of a cycle that is flushed: a batch is consumed, rounds are made, and
one flush is made. -/
def IsCycle (calls : List Call) : Prop :=
  ∃ batch rounds closing, RoundsEnd agent batch (List.length rounds) closing ∧
    calls = .consumeBatch (.done batch) ::
      (rounds.flatMap Round.calls ++ closing ++ [.flush (.done ())])

/-- The calls of a cycle up to some point. The last of them may have come to
anything. -/
def IsPartOfCycle (calls : List Call) : Prop :=
  ∃ cycle, agent.IsCycle cycle ∧ calls.dropLast <+: cycle ∧
    calls.map Call.callee <+: cycle.map Call.callee

/-- The calls of the cycle under way, and the phase that they lead to. -/
inductive Situated : Phase → List Call → Prop where
  | consuming : Situated .consuming []
  | asking {batch prompt rounds} (answers : List Round)
      (rendered : agent.renderer.render batch = .ok prompt)
      (counted : answers.length + (rounds + 1) = agent.sinkMinimum) :
      Situated (.asking batch prompt rounds)
        (.consumeBatch (.done batch) :: answers.flatMap Round.calls)
  | producing {batch prompt rounds reply message} (answers : List Round)
      (rendered : agent.renderer.render batch = .ok prompt)
      (counted : answers.length + (rounds + 1) = agent.sinkMinimum)
      (meant : interpret prompt.operator reply batch = .ok (some message)) :
      Situated (.producing batch rounds message)
        (.consumeBatch (.done batch) :: (answers.flatMap Round.calls ++
          [.complete prompt.inputs (.done reply)]))
  | flushing {batch closing} (answers : List Round)
      (ended : RoundsEnd agent batch answers.length closing) :
      Situated .flushing
        (.consumeBatch (.done batch) :: (answers.flatMap Round.calls ++ closing))
  | ending {part} (result) (isPart : IsPartOfCycle agent part) :
      Situated (.ending result) part
  | finished {part} (outcome terminated) (isPart : IsPartOfCycle agent part) :
      Situated (.finished outcome) (part ++ [.terminate terminated])
  | standing {part} (halt) (isPart : IsPartOfCycle agent part) : Situated (.standing halt) part

/-- The calls so far are cycles that are flushed, and the cycle under way. -/
def CyclesSoFar (entries : List Entry) (phase : Phase) : Prop :=
  ∃ cycles part, entries.map Entry.call = List.flatten cycles ++ part ∧
    (∀ cycle ∈ cycles, agent.IsCycle cycle) ∧ Situated agent phase part

end

/-! ## Parts of cycles -/

section

variable {agent : Agent σ} {batch : List Message} {answers : List Round} {part rest : List Call}

theorem isPartOfCycle_of_prefix {cycle : List Call} (isCycle : agent.IsCycle cycle)
    (prefixed : part <+: cycle) : agent.IsPartOfCycle part :=
  ⟨cycle, isCycle, (List.dropLast_prefix part).trans prefixed, prefixed.map Call.callee⟩

/-- The last call may have come to something else than in a cycle. -/
theorem isPartOfCycle_concat {call other : Call}
    (isCycle : agent.IsCycle (part ++ other :: rest)) (same : call.callee = other.callee) :
    agent.IsPartOfCycle (part ++ [call]) := by
  refine ⟨_, isCycle, ?_, ?_⟩
  · rw [List.dropLast_concat]
    exact List.prefix_append part _
  · refine ⟨rest.map Call.callee, ?_⟩
    simp only [List.map_append, List.map_cons, List.map_nil, same, List.append_assoc,
      List.cons_append, List.nil_append]

/-- Rounds that are answered can be made up to a cycle. -/
theorem exists_isCycle (batch : List Message) (answers : List Round)
    (few : answers.length ≤ agent.sinkMinimum) :
    ∃ rest, agent.IsCycle
      (.consumeBatch (.done batch) :: (answers.flatMap Round.calls ++ rest)) := by
  let more : List Round := List.replicate (agent.sinkMinimum - answers.length) default
  refine ⟨more.flatMap Round.calls ++ [.flush (.done ())], batch, answers ++ more, [], ?_, ?_⟩
  · apply RoundsEnd.exhausted
    rw [List.length_append, List.length_replicate]
    omega
  · rw [List.flatMap_append, List.append_nil, List.append_assoc]

theorem isPartOfCycle_nil : agent.IsPartOfCycle [] := by
  obtain ⟨rest, isCycle⟩ : ∃ rest, agent.IsCycle (_ :: ([] ++ rest)) :=
    exists_isCycle [] [] (Nat.zero_le _)
  exact isPartOfCycle_of_prefix isCycle List.nil_prefix

theorem isPartOfCycle_consumeBatch (outcome : Outcome MessengerError (List Message)) :
    agent.IsPartOfCycle [.consumeBatch outcome] := by
  obtain ⟨rest, isCycle⟩ : ∃ rest, agent.IsCycle ([] ++ .consumeBatch (.done []) :: rest) :=
    exists_isCycle [] [] (Nat.zero_le _)
  exact isPartOfCycle_concat isCycle rfl

theorem isPartOfCycle_answers (few : answers.length ≤ agent.sinkMinimum) :
    agent.IsPartOfCycle (.consumeBatch (.done batch) :: answers.flatMap Round.calls) := by
  obtain ⟨rest, isCycle⟩ := exists_isCycle batch answers few
  exact isPartOfCycle_of_prefix isCycle ⟨rest, rfl⟩

/-- One more round can be made after fewer answers than there are rounds. -/
theorem exists_isCycle_round (batch : List Message) (answers : List Round) (round : Round)
    (fewer : answers.length < agent.sinkMinimum) :
    ∃ rest, agent.IsCycle (.consumeBatch (.done batch) ::
      (answers.flatMap Round.calls ++ round.calls ++ rest)) := by
  have few : (answers ++ [round]).length ≤ agent.sinkMinimum := by
    rw [List.length_append, List.length_singleton]
    omega
  obtain ⟨rest, isCycle⟩ := exists_isCycle batch (answers ++ [round]) few
  refine ⟨rest, ?_⟩
  simpa only [List.flatMap_append, List.flatMap_singleton] using isCycle

theorem isPartOfCycle_complete (batch inputs : List Message)
    (outcome : Outcome CompletionError (Option Message))
    (fewer : answers.length < agent.sinkMinimum) :
    agent.IsPartOfCycle ((.consumeBatch (.done batch) :: answers.flatMap Round.calls) ++
      [.complete inputs outcome]) := by
  obtain ⟨rest, isCycle⟩ := exists_isCycle_round batch answers default fewer
  rw [List.append_assoc] at isCycle
  exact isPartOfCycle_concat isCycle rfl

theorem isPartOfCycle_produce (batch inputs : List Message) (reply : Option Message)
    (message : Message) (outcome : Outcome MessengerError Unit)
    (fewer : answers.length < agent.sinkMinimum) :
    agent.IsPartOfCycle ((.consumeBatch (.done batch) :: (answers.flatMap Round.calls ++
      [.complete inputs (.done reply)])) ++ [.produce message outcome]) := by
  obtain ⟨rest, isCycle⟩ :=
    exists_isCycle_round batch answers { inputs, reply, message } fewer
  have split : agent.IsCycle ((.consumeBatch (.done batch) :: (answers.flatMap Round.calls ++
      [.complete inputs (.done reply)])) ++ .produce message (.done ()) :: rest) := by
    simpa only [Round.calls, List.append_assoc, List.cons_append, List.nil_append] using isCycle
  exact isPartOfCycle_concat split rfl

theorem isPartOfCycle_flush {closing : List Call} (outcome : Outcome MessengerError Unit)
    (ended : RoundsEnd agent batch answers.length closing) :
    agent.IsPartOfCycle ((.consumeBatch (.done batch) ::
      (answers.flatMap Round.calls ++ closing)) ++ [.flush outcome]) := by
  have isCycle : agent.IsCycle ((.consumeBatch (.done batch) ::
      (answers.flatMap Round.calls ++ closing)) ++ .flush (.done ()) :: []) :=
    ⟨batch, answers, closing, ended, rfl⟩
  exact isPartOfCycle_concat isCycle rfl

/-! ## What a call keeps -/

theorem Situated.unlessCancelled {phase : Phase} (situated : Situated agent phase part)
    (isPart : agent.IsPartOfCycle part) (isCancelled : Bool) :
    Situated agent (phase.unlessCancelled isCancelled) part := by
  cases isCancelled with
  | true => exact .ending _ isPart
  | false => exact situated

theorem situated_answering (batch : List Message) (answers : List Round) (rounds : Nat)
    (counted : answers.length + rounds = agent.sinkMinimum) :
    Situated agent (agent.answering batch rounds)
      (.consumeBatch (.done batch) :: answers.flatMap Round.calls) := by
  cases rounds with
  | zero =>
      have flushing : Situated agent .flushing
          (.consumeBatch (.done batch) :: (answers.flatMap Round.calls ++ [])) :=
        .flushing answers (.exhausted counted)
      rwa [List.append_nil] at flushing
  | succ rounds =>
      unfold answering
      cases rendered : agent.renderer.render batch with
      | ok prompt => exact .asking answers rendered counted
      | error stop =>
          have isPart : agent.IsPartOfCycle (.consumeBatch (.done batch) ::
              answers.flatMap Round.calls) := isPartOfCycle_answers (by omega)
          cases stop with
          | failed error => exact .ending _ isPart
          | crashed crash => exact .standing _ isPart

theorem situated_consumed (outcome : Outcome MessengerError (List Message))
    (isCancelled : Bool) :
    Situated agent (agent.consumed outcome isCancelled) [.consumeBatch outcome] := by
  have isPart : agent.IsPartOfCycle [.consumeBatch outcome] := isPartOfCycle_consumeBatch outcome
  cases outcome with
  | done batch =>
      exact (situated_answering batch [] agent.sinkMinimum (Nat.zero_add _)).unlessCancelled
        isPart isCancelled
  | failed error => exact .ending _ isPart
  | halted halt =>
      cases halt with
      | waiting => exact (Situated.standing _ isPart).unlessCancelled isPart isCancelled
      | crashed crash => exact .standing _ isPart

theorem situated_interpreting {prompt : Prompt} {rounds : Nat}
    (rendered : agent.renderer.render batch = .ok prompt)
    (counted : answers.length + (rounds + 1) = agent.sinkMinimum)
    (reply : Option Message) (isCancelled : Bool) :
    Situated agent (interpreting batch prompt rounds reply isCancelled)
      (.consumeBatch (.done batch) :: (answers.flatMap Round.calls ++
        [.complete prompt.inputs (.done reply)])) := by
  have fewer : answers.length < agent.sinkMinimum := by omega
  have isPart := isPartOfCycle_complete batch prompt.inputs (.done reply) fewer
  unfold interpreting
  cases meant : interpret prompt.operator reply batch with
  | error error => exact .ending _ isPart
  | ok answer =>
      cases answer with
      | none =>
          have ended := RoundsEnd.unanswered fewer rendered meant
          exact (Situated.flushing answers ended).unlessCancelled isPart isCancelled
      | some message =>
          exact (Situated.producing answers rendered counted meant).unlessCancelled
            isPart isCancelled

theorem situated_produced {prompt : Prompt} {rounds : Nat}
    (counted : answers.length + (rounds + 1) = agent.sinkMinimum) (reply : Option Message)
    (message : Message) (isCancelled : Bool) :
    Situated agent ((agent.answering batch rounds).unlessCancelled isCancelled)
      ((.consumeBatch (.done batch) :: (answers.flatMap Round.calls ++
        [.complete prompt.inputs (.done reply)])) ++ [.produce message (.done ())]) := by
  have fewer : answers.length < agent.sinkMinimum := by omega
  have isPart := isPartOfCycle_produce batch prompt.inputs reply message (.done ()) fewer
  let round : Round := { inputs := prompt.inputs, reply, message }
  have more : (answers ++ [round]).length + rounds = agent.sinkMinimum := by
    rw [List.length_append, List.length_singleton]
    omega
  have answering := situated_answering batch (answers ++ [round]) rounds more
  have calls : (.consumeBatch (.done batch) :: (answers ++ [round]).flatMap Round.calls) =
      (.consumeBatch (.done batch) :: (answers.flatMap Round.calls ++
        [.complete prompt.inputs (.done reply)])) ++ [.produce message (.done ())] := by
    simp [Round.calls, round]
  rw [calls] at answering
  exact answering.unlessCancelled isPart isCancelled

/-- A call goes on with the cycle under way, or ends it by a flush. -/
theorem Situated.next {before after : Phase} {entry : Entry}
    (situated : Situated agent before part) (next : Next agent before entry after) :
    Situated agent after (part ++ [entry.call]) ∨
      agent.IsCycle (part ++ [entry.call]) ∧ Situated agent after [] := by
  cases next with
  | consumeBatch outcome isCancelled =>
      cases situated with
      | consuming => exact .inl (situated_consumed outcome isCancelled)
  | complete batch prompt rounds outcome isCancelled =>
      cases situated with
      | asking answers rendered counted =>
          have isPart := isPartOfCycle_complete batch prompt.inputs outcome
            (show answers.length < agent.sinkMinimum by omega)
          cases outcome with
          | done reply => exact .inl (situated_interpreting rendered counted reply isCancelled)
          | failed error => exact .inl (.ending _ isPart)
          | halted halt => exact .inl (.standing halt isPart)
  | produce batch rounds message outcome isCancelled =>
      cases situated with
      | @producing _ prompt _ reply _ answers rendered counted meant =>
          have isPart := isPartOfCycle_produce batch prompt.inputs reply message outcome
            (show answers.length < agent.sinkMinimum by omega)
          cases outcome with
          | done _ => exact .inl (situated_produced counted reply message isCancelled)
          | failed error => exact .inl (.ending _ isPart)
          | halted halt => exact .inl (.standing halt isPart)
  | flush outcome isCancelled =>
      cases situated with
      | @flushing batch closing answers ended =>
          have isPart := isPartOfCycle_flush outcome ended
          cases outcome with
          | done _ =>
              have isCycle : agent.IsCycle ((.consumeBatch (.done batch) ::
                  (answers.flatMap Round.calls ++ closing)) ++ [.flush (.done ())]) :=
                ⟨batch, answers, closing, ended, rfl⟩
              exact .inr ⟨isCycle, Situated.consuming.unlessCancelled isPartOfCycle_nil _⟩
          | failed error => exact .inl (.ending _ isPart)
          | halted halt => exact .inl (.standing halt isPart)
  | terminate result outcome isCancelled =>
      cases situated with
      | ending _ isPart => exact .inl (.finished _ outcome isPart)

theorem CyclesSoFar.next {entries : List Entry} {before after : Phase} {entry : Entry}
    (soFar : CyclesSoFar agent entries before) (next : Next agent before entry after) :
    CyclesSoFar agent (entries ++ [entry]) after := by
  obtain ⟨cycles, part, calls, areCycles, situated⟩ := soFar
  rcases situated.next next with onward | ⟨isCycle, begun⟩
  · refine ⟨cycles, part ++ [entry.call], ?_, areCycles, onward⟩
    rw [List.map_append, calls, List.map_singleton, List.append_assoc]
  · refine ⟨cycles ++ [part ++ [entry.call]], [], ?_, ?_, begun⟩
    · rw [List.map_append, calls, List.map_singleton, List.flatten_append,
        List.flatten_singleton, List.append_nil, List.append_assoc]
    · intro cycle member
      rcases List.mem_append.mp member with earlier | last
      · exact areCycles cycle earlier
      · rw [List.mem_singleton.mp last]
        exact isCycle

/-- The calls that lead from the start of a run to a phase are cycles that are
flushed, and the cycle under way. -/
theorem Course.cyclesSoFar {entries : List Entry} {isCancelled : Bool} {phase : Phase}
    (course : Course agent (Phase.consuming.unlessCancelled isCancelled) entries phase) :
    CyclesSoFar agent entries phase := by
  have initial : CyclesSoFar agent [] (Phase.consuming.unlessCancelled isCancelled) :=
    ⟨[], [], rfl, by simp, Situated.consuming.unlessCancelled isPartOfCycle_nil isCancelled⟩
  exact course.invariant CyclesSoFar.next initial

/-- The last call of a run that returns is a termination. -/
theorem exists_terminate_of_returns (agent : Agent σ) (count : Nat) (state : σ)
    (returns : (agent.run count state).1.returns = true) :
    ∃ earlier terminated isCancelled,
      agent.entries count state = earlier ++ [⟨.terminate terminated, isCancelled⟩] := by
  obtain ⟨last, course, closes⟩ := agent.run_course count state
  obtain ⟨cycles, whole, calls, _, situated⟩ := course.cyclesSoFar
  generalize (agent.run count state).1 = outcome at returns closes
  cases closes with
  | standing halt => cases returns
  | consuming => cases returns
  | finished _ =>
      cases situated with
      | @finished part _ terminated _ =>
          rw [← List.append_assoc] at calls
          obtain ⟨earlier, final, made, _, isLast⟩ := List.map_eq_append_iff.mp calls
          obtain ⟨⟨call, isCancelled⟩, rfl, same⟩ := List.map_eq_singleton_iff.mp isLast
          cases same
          exact ⟨earlier, terminated, isCancelled, made⟩

end

end PromptRelay.Agent
