import PromptRelay.Proofs.Agent.DataFlow

/-!
Contract: what a run comes to when something fails.

Owns:
- the failure of what begins with a call: of the call itself, of rendering the
  batch that it brings, or of interpreting the completion that it brings;
- that such a failure ends the cycles at once, and is what the run comes to;
- what a run without failures comes to.

Does not own: cancellation, except as the only other way for a run to end.
-/

namespace PromptRelay.Agent

/-- Why a batch has no prompt. -/
def renderingFailure? (agent : Agent σ) (batch : List Message) : Option AgentError :=
  match agent.renderer.render batch with
  | .ok _ | .error (.crashed _) => none
  | .error (.failed error) => some (.prompt error)

/-- Why a reply to the prompt of a batch cannot be interpreted. -/
def interpretationFailure? (agent : Agent σ) (batch : List Message) (reply : Option Message) :
    Option AgentError :=
  match agent.renderer.render batch with
  | .error _ => none
  | .ok prompt =>
    match interpret prompt.operator reply batch with
    | .ok _ => none
    | .error error => some (.interpretation error)

/-- The error that a call fails with, or that its completion is interpreted with,
given the calls before it. -/
def callFailure? (agent : Agent σ) (earlier : List Call) : Call → Option AgentError
  | .consumeBatch (.failed error) | .produce _ (.failed error) | .flush (.failed error) =>
    some (.messenger error)
  | .complete _ (.failed error) => some (.completion error)
  | .complete _ (.done reply) => do agent.interpretationFailure? (← batchOf? earlier) reply
  | _ => none

/-- The failure of what begins with a call: that of the call, or of rendering the
batch that it brings. A batch is not rendered if the run is cancelled, or if it is
to be answered no times. -/
def failureOf? (agent : Agent σ) (earlier : List Call) (entry : Entry) : Option AgentError :=
  match entry.call with
  | .consumeBatch (.done batch) =>
    if entry.isCancelled || agent.sinkMinimum == 0 then none
    else agent.renderingFailure? batch
  | call => agent.callFailure? earlier call

/-- Something in these calls fails with an error. -/
def FailsWith (agent : Agent σ) (entries : List Entry) (error : AgentError) : Prop :=
  ∃ earlier entry later, entries = earlier ++ entry :: later ∧
    agent.failureOf? (earlier.map Entry.call) entry = some error

/-- A run is cancelled, from its start or by the end of a call other than the
termination. -/
def IsCancelledWithin (agent : Agent σ) (state : σ) (entries : List Entry) : Prop :=
  agent.isCancelled state = true ∨
    ∃ entry ∈ entries, entry.call.callee ≠ .terminate ∧ entry.isCancelled = true

theorem concluded_ok (terminated : Outcome MessengerError Unit) :
    concluded (.ok ()) terminated = terminated.mapError .messenger := by
  cases terminated <;> rfl

theorem concluded_error {error : AgentError} {terminated : Outcome MessengerError Unit}
    (returned : terminated.returns = true) : concluded (.error error) terminated = .failed error := by
  cases terminated with
  | done _ => rfl
  | failed _ => rfl
  | halted halt => cases returned

theorem concluded_eq_done {result : Except AgentError Unit}
    {terminated : Outcome MessengerError Unit}
    (done : concluded result terminated = .done ()) :
    result = .ok () ∧ terminated = .done () := by
  cases result <;> cases terminated <;> simp [concluded, Outcome.mapError] at done ⊢

/-! ## How cycles end -/

section

variable {agent : Agent σ} {batch : List Message} {rounds : Nat}

theorem unlessCancelled_eq_error_iff (isCancelled : Bool) (phase : Phase) (error : AgentError) :
    phase.unlessCancelled isCancelled = .ending (.error error) ↔
      isCancelled = false ∧ phase = .ending (.error error) := by
  cases isCancelled <;> simp [Phase.unlessCancelled]

theorem unlessCancelled_eq_ok_iff (isCancelled : Bool) (phase : Phase) :
    phase.unlessCancelled isCancelled = .ending (.ok ()) ↔
      isCancelled = true ∨ phase = .ending (.ok ()) := by
  cases isCancelled <;> simp [Phase.unlessCancelled]

theorem after_eq_error_iff (resume : α → Phase) (outcome : Outcome ε α)
    (toError : ε → AgentError) (error : AgentError) :
    Phase.after resume (outcome.mapError toError) = .ending (.error error) ↔
      (∃ value, outcome = .done value ∧ resume value = .ending (.error error)) ∨
        ∃ cause, outcome = .failed cause ∧ toError cause = error := by
  cases outcome <;> simp [Phase.after, Outcome.mapError]

theorem after_eq_ok_iff (resume : α → Phase) (outcome : Outcome ε α)
    (toError : ε → AgentError) :
    Phase.after resume (outcome.mapError toError) = .ending (.ok ()) ↔
      ∃ value, outcome = .done value ∧ resume value = .ending (.ok ()) := by
  cases outcome <;> simp [Phase.after, Outcome.mapError]

theorem answering_eq_error_iff (error : AgentError) :
    agent.answering batch rounds = .ending (.error error) ↔
      rounds ≠ 0 ∧ agent.renderingFailure? batch = some error := by
  cases rounds with
  | zero => simp [answering]
  | succ rounds =>
      unfold answering renderingFailure?
      rcases agent.renderer.render batch with (error | crash) | prompt <;> simp

theorem answering_ne_ok : agent.answering batch rounds ≠ .ending (.ok ()) := by
  cases rounds with
  | zero => simp [answering]
  | succ rounds =>
      unfold answering
      rcases agent.renderer.render batch with (error | crash) | prompt <;> simp

theorem answered_ne_ending (answer : Option Message) (result : Except AgentError Unit) :
    answered batch rounds answer ≠ .ending result := by
  cases answer <;> simp [answered]

theorem consumed_eq_error_iff (outcome : Outcome MessengerError (List Message))
    (isCancelled : Bool) (earlier : List Call) (error : AgentError) :
    agent.consumed outcome isCancelled = .ending (.error error) ↔
      agent.failureOf? earlier ⟨.consumeBatch outcome, isCancelled⟩ = some error := by
  cases outcome with
  | done batch =>
      simp only [consumed, failureOf?]
      rw [unlessCancelled_eq_error_iff, answering_eq_error_iff]
      cases isCancelled <;> by_cases none : agent.sinkMinimum = 0 <;> simp [none]
  | failed other => simp [consumed, failureOf?, callFailure?]
  | halted halt =>
      cases halt <;> simp [consumed, failureOf?, callFailure?, unlessCancelled_eq_error_iff]

theorem consumed_eq_ok {outcome : Outcome MessengerError (List Message)} {isCancelled : Bool}
    (ended : agent.consumed outcome isCancelled = .ending (.ok ())) : isCancelled = true := by
  cases outcome with
  | done batch => simpa [consumed, unlessCancelled_eq_ok_iff, answering_ne_ok] using ended
  | failed error => simp [consumed] at ended
  | halted halt =>
      cases halt with
      | waiting => simpa [consumed, unlessCancelled_eq_ok_iff] using ended
      | crashed crash => cases ended

theorem interpreting_eq_error_iff {prompt : Prompt}
    (rendered : agent.renderer.render batch = .ok prompt) (reply : Option Message)
    (isCancelled : Bool) (error : AgentError) :
    interpreting batch prompt rounds reply isCancelled = .ending (.error error) ↔
      agent.interpretationFailure? batch reply = some error := by
  unfold interpreting interpretationFailure?
  cases meant : interpret prompt.operator reply batch with
  | ok answer => simp [rendered, meant, unlessCancelled_eq_error_iff, answered_ne_ending]
  | error other => simp [rendered, meant]

theorem interpreting_eq_ok {prompt : Prompt} {reply : Option Message} {isCancelled : Bool}
    (ended : interpreting batch prompt rounds reply isCancelled = .ending (.ok ())) :
    isCancelled = true := by
  unfold interpreting at ended
  cases meant : interpret prompt.operator reply batch with
  | ok answer =>
      simpa [meant, unlessCancelled_eq_ok_iff, answered_ne_ending] using ended
  | error other => simp [meant] at ended

/-- Cycles end with an error exactly at a call whose steps fail with it. -/
theorem Next.ending_error_iff {entries : List Entry} {entry : Entry} {before after : Phase}
    (next : Next agent before entry after) (soFar : CyclesSoFar agent entries before)
    (error : AgentError) :
    after = .ending (.error error) ↔
      agent.failureOf? (entries.map Entry.call) entry = some error := by
  cases next with
  | consumeBatch outcome isCancelled => exact consumed_eq_error_iff outcome isCancelled _ error
  | complete batch prompt rounds outcome isCancelled =>
      obtain ⟨underWay, rendered⟩ := soFar.of_asking
      rw [after_eq_error_iff]
      cases outcome with
      | done reply =>
          simpa [failureOf?, callFailure?, underWay] using
            interpreting_eq_error_iff rendered reply isCancelled error
      | failed other => simp [failureOf?, callFailure?]
      | halted halt => simp [failureOf?, callFailure?]
  | produce batch rounds message outcome isCancelled =>
      obtain ⟨prompt, _, _, rendered, _⟩ := soFar.of_producing
      -- The batch has been rendered before, so that rendering it again does not fail.
      have renders : agent.renderingFailure? batch = none := by
        simp only [renderingFailure?, rendered]
      rw [after_eq_error_iff]
      simp only [unlessCancelled_eq_error_iff, answering_eq_error_iff, renders]
      cases outcome <;> simp [failureOf?, callFailure?]
  | flush outcome isCancelled =>
      rw [after_eq_error_iff]
      simp only [unlessCancelled_eq_error_iff]
      cases outcome <;> simp [failureOf?, callFailure?]
  | terminate result outcome isCancelled => simp [failureOf?, callFailure?]

/-- Cycles end without an error only at a call by whose end the run is cancelled. -/
theorem Next.isCancelled_of_ending {entry : Entry} {before : Phase}
    (next : Next agent before entry (.ending (.ok ()))) :
    entry.isCancelled = true ∧ entry.call.callee ≠ .terminate := by
  generalize ended : Phase.ending (.ok ()) = after at next
  symm at ended
  cases next with
  | consumeBatch outcome isCancelled => exact ⟨consumed_eq_ok ended, by simp [Call.callee]⟩
  | complete batch prompt rounds outcome isCancelled =>
      obtain ⟨reply, _, ended⟩ := (after_eq_ok_iff _ _ _).mp ended
      exact ⟨interpreting_eq_ok ended, by simp [Call.callee]⟩
  | produce batch rounds message outcome isCancelled =>
      obtain ⟨_, _, ended⟩ := (after_eq_ok_iff _ _ _).mp ended
      refine ⟨?_, by simp [Call.callee]⟩
      simpa [unlessCancelled_eq_ok_iff, answering_ne_ok] using ended
  | flush outcome isCancelled =>
      obtain ⟨_, _, ended⟩ := (after_eq_ok_iff _ _ _).mp ended
      refine ⟨?_, by simp [Call.callee]⟩
      simpa [unlessCancelled_eq_ok_iff] using ended
  | terminate result outcome isCancelled => cases ended

theorem failsWith_of_ending {entries : List Entry} {isCancelled : Bool} {error : AgentError}
    (course : Course agent (Phase.consuming.unlessCancelled isCancelled) entries
      (.ending (.error error))) :
    agent.FailsWith entries error := by
  rcases List.eq_nil_or_concat entries with rfl | ⟨earlier, entry, rfl⟩
  · generalize ended : Phase.ending (.error error) = last at course
    cases course
    have impossible := (unlessCancelled_eq_error_iff isCancelled _ error).mp ended.symm
    cases impossible.2
  · rw [List.concat_eq_append] at course ⊢
    obtain ⟨before, after, reached, next, rest⟩ := course.exists_next
    generalize ended : Phase.ending (.error error) = last at rest
    cases rest
    exact ⟨earlier, entry, [], rfl,
      (next.ending_error_iff reached.cyclesSoFar error).mp ended.symm⟩

theorem isCancelledWithin_of_ending {entries : List Entry} {state : σ}
    (course : Course agent (Phase.consuming.unlessCancelled (agent.isCancelled state)) entries
      (.ending (.ok ()))) :
    agent.IsCancelledWithin state entries := by
  rcases List.eq_nil_or_concat entries with rfl | ⟨earlier, entry, rfl⟩
  · generalize ended : Phase.ending (.ok ()) = last at course
    cases course
    rcases (unlessCancelled_eq_ok_iff _ _).mp ended.symm with cancelled | impossible
    · exact .inl cancelled
    · cases impossible
  · rw [List.concat_eq_append] at course ⊢
    obtain ⟨before, after, reached, next, rest⟩ := course.exists_next
    generalize ended : Phase.ending (.ok ()) = last at rest
    cases rest
    rw [← ended] at next
    obtain ⟨cancelled, other⟩ := next.isCancelled_of_ending
    exact .inr ⟨entry, by simp, other, cancelled⟩

theorem IsCancelledWithin.append {entries : List Entry} {state : σ}
    (cancelled : agent.IsCancelledWithin state entries) (more : List Entry) :
    agent.IsCancelledWithin state (entries ++ more) := by
  rcases cancelled with before | ⟨entry, member, other, cancelled⟩
  · exact .inl before
  · exact .inr ⟨entry, List.mem_append_left more member, other, cancelled⟩

theorem FailsWith.append {entries : List Entry} {error : AgentError}
    (fails : agent.FailsWith entries error) (more : List Entry) :
    agent.FailsWith (entries ++ more) error := by
  obtain ⟨earlier, entry, later, rfl, failed⟩ := fails
  exact ⟨earlier, entry, later ++ more, by simp, failed⟩

/-- After a failure there is one more call, the termination. -/
theorem terminate_of_failureOf? (agent : Agent σ) (count : Nat) (state : σ)
    {earlier later : List Entry} {entry : Entry} {error : AgentError}
    (made : agent.entries count state = earlier ++ entry :: later)
    (failed : agent.failureOf? (earlier.map Entry.call) entry = some error) :
    ∃ terminated isCancelled, later = [⟨.terminate terminated, isCancelled⟩] ∧
      (agent.run count state).1 = concluded (.error error) terminated := by
  obtain ⟨before, after, last, reached, next, rest, closes⟩ :=
    agent.exists_next_of_entries count state made
  have ended := (next.ending_error_iff reached.cyclesSoFar error).mpr failed
  rw [ended] at rest
  exact rest.terminates closes

/-- Without a failure, the cycles of a terminated run have ended well. -/
theorem run_of_terminate (agent : Agent σ) (count : Nat) (state : σ)
    {earlier later : List Entry} {terminated : Outcome MessengerError Unit} {isCancelled : Bool}
    (made : agent.entries count state = earlier ++ ⟨.terminate terminated, isCancelled⟩ :: later)
    (succeeds : ∀ error, ¬ agent.FailsWith (agent.entries count state) error) :
    (agent.run count state).1 = concluded (.ok ()) terminated := by
  obtain ⟨result, course, _, outcome⟩ := agent.exists_ending_of_entries count state made
  cases result with
  | ok _ => exact outcome
  | error error =>
      have fails := (failsWith_of_ending course).append
        (⟨.terminate terminated, isCancelled⟩ :: later)
      rw [← made] at fails
      exact absurd fails (succeeds error)

end

/-- What a run comes to is told by its failure, which is followed by one termination
and by nothing else, so that there is no other; without a failure, by its
termination. It comes to no error
exactly if it is cancelled, nothing fails, and the termination succeeds. -/
theorem run_failure (agent : Agent σ) (count : Nat) (state : σ) :
    (∀ earlier entry later error,
      agent.entries count state = earlier ++ entry :: later →
      agent.failureOf? (earlier.map Entry.call) entry = some error →
      ∃ terminated isCancelled,
        later = [⟨.terminate terminated, isCancelled⟩] ∧
        (terminated.returns = true → (agent.run count state).1 = .failed error) ∧
        ∀ other, agent.FailsWith (agent.entries count state) other → other = error) ∧
    ((∀ error, ¬ agent.FailsWith (agent.entries count state) error) →
      (agent.run count state).1.returns = true →
      ∃ earlier terminated isCancelled,
        agent.entries count state = earlier ++ [⟨.terminate terminated, isCancelled⟩] ∧
        (agent.run count state).1 = terminated.mapError .messenger) ∧
    ((agent.run count state).1 = .done () ↔
      agent.IsCancelledWithin state (agent.entries count state) ∧
      (∀ error, ¬ agent.FailsWith (agent.entries count state) error) ∧
      ∃ isCancelled, ⟨.terminate (.done ()), isCancelled⟩ ∈ agent.entries count state) := by
  refine ⟨?_, ?_, ?_, ?_⟩
  · intro earlier entry later error made failed
    obtain ⟨terminated, isCancelled, rest, outcome⟩ :=
      agent.terminate_of_failureOf? count state made failed
    refine ⟨terminated, isCancelled, rest, fun returned => ?_, ?_⟩
    · rw [outcome, concluded_error returned]
    · rintro other ⟨otherEarlier, otherEntry, otherLater, otherMade, otherFailed⟩
      obtain ⟨_, _, otherRest, _⟩ := agent.terminate_of_failureOf? count state otherMade otherFailed
      rw [made, rest, otherRest] at otherMade
      -- Both failures stand just before the only termination.
      obtain ⟨rfl, same⟩ := List.append_inj' otherMade (by simp)
      obtain ⟨rfl, _⟩ := List.cons_eq_cons.mp same
      exact Option.some.inj (otherFailed.symm.trans failed)
  · intro succeeds returns
    obtain ⟨earlier, terminated, isCancelled, made⟩ :=
      agent.exists_terminate_of_returns count state returns
    refine ⟨earlier, terminated, isCancelled, made, ?_⟩
    rw [agent.run_of_terminate count state made succeeds, concluded_ok]
  · intro outcome
    have returns : (agent.run count state).1.returns = true := by rw [outcome]; rfl
    obtain ⟨earlier, terminated, isCancelled, made⟩ :=
      agent.exists_terminate_of_returns count state returns
    obtain ⟨result, course, _, concludes⟩ := agent.exists_ending_of_entries count state made
    rw [outcome] at concludes
    obtain ⟨rfl, rfl⟩ := concluded_eq_done concludes.symm
    refine ⟨?_, ?_, isCancelled, by simp [made]⟩
    · rw [made]
      exact (isCancelledWithin_of_ending course).append _
    · rintro error ⟨before, entry, after, split, failed⟩
      obtain ⟨_, _, _, concludes⟩ := agent.terminate_of_failureOf? count state split failed
      rw [outcome] at concludes
      cases (concluded_eq_done concludes.symm).1
  · rintro ⟨_, succeeds, isCancelled, member⟩
    obtain ⟨earlier, later, made⟩ := List.append_of_mem member
    rw [agent.run_of_terminate count state made succeeds]
    rfl

/-- An agent whose completions are read as indices. -/
def indexAgent : Agent Rehearsal.Stage :=
  Rehearsal.agent Rehearsal.batchMessenger (textRenderer "operator: Index\ninputs: []") 1 false

/-- A completion that is no index, and a termination that fails as well. -/
def twoFailures : Rehearsal.Stage where
  batches := [{ outcome := .done [] }]
  completions := [{ outcome := .done (some (.assistant "first")) }]
  terminations := [{ outcome := .failed (.disconnect "gone") }]

theorem entries_twoFailures :
    indexAgent.entries 1 twoFailures =
      [⟨.consumeBatch (.done []), false⟩] ++
        ⟨.complete [] (.done (some (.assistant "first"))), false⟩ ::
          [⟨.terminate (.failed (.disconnect "gone")), false⟩] := by decide +kernel

/-- The failure of the interpretation is told, and not the one of the termination. -/
theorem run_twoFailures :
    (indexAgent.run 1 twoFailures).1 = .failed (.interpretation (.notAnIndex "first")) ∧
    ∀ other, indexAgent.FailsWith (indexAgent.entries 1 twoFailures) other →
      other = .interpretation (.notAnIndex "first") := by
  have failed : indexAgent.failureOf? [.consumeBatch (.done [])]
      ⟨.complete [] (.done (some (.assistant "first"))), false⟩ =
        some (.interpretation (.notAnIndex "first")) := by decide +kernel
  obtain ⟨terminated, isCancelled, rest, outcome, only⟩ :=
    (run_failure indexAgent 1 twoFailures).1 _ _ _ _ entries_twoFailures failed
  obtain ⟨⟨rfl⟩, _⟩ := Entry.mk.inj (List.cons_eq_cons.mp rest).1
  exact ⟨outcome rfl, only⟩

end PromptRelay.Agent
