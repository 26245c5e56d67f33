import PromptRelay.Proofs.Agent.Failure
import PromptRelay.Proofs.Agent.Shape

/-!
Contract: what a run does once it is cancelled.

Owns:
- that a run which is cancelled before it begins only terminates the transport;
- that nothing else is called after the call by whose end the run is cancelled,
  whichever it is, and what the run then comes to.

Does not own: who cancels a run.

Only an attempt to consume is put an end to by a cancellation, and only one that waits.
A run waits for any other call that has begun, so that it does not return if such a
call does not; and a call that crashes brings it down.
-/

namespace PromptRelay.Agent

/-- Why a call does not return, unless a cancellation puts an end to it. -/
def Call.halt? : Call → Option Halt
  | .consumeBatch (.crashed crash) => some (.crashed crash)
  | .complete _ (.halted halt) | .produce _ (.halted halt) | .flush (.halted halt)
  | .terminate (.halted halt) => some halt
  | _ => none

/-! ## Calls by whose end a run is cancelled -/

section

variable {agent : Agent σ} {before after : Phase} {entry : Entry}

/-- A batch that is consumed when the run is cancelled is not rendered, so that
nothing but the call can fail. -/
theorem failureOf?_of_isCancelled (earlier : List Call) (cancelled : entry.isCancelled = true) :
    agent.failureOf? earlier entry = agent.callFailure? earlier entry.call := by
  rcases entry with ⟨call, isCancelled⟩
  subst cancelled
  cases call with
  | consumeBatch outcome => rcases outcome with _ | _ | _ | _ <;> rfl
  | complete inputs outcome => rfl
  | produce message outcome => rfl
  | flush outcome => rfl
  | terminate outcome => rfl

theorem Next.eq_standing_of_halt? {halt : Halt} (next : Next agent before entry after)
    (other : entry.call.callee ≠ .terminate) (halts : entry.call.halt? = some halt) :
    after = .standing halt := by
  cases next with
  | consumeBatch outcome isCancelled => rcases outcome with _ | _ | _ | _ <;> cases halts; rfl
  | complete batch prompt rounds outcome isCancelled => cases outcome <;> cases halts; rfl
  | produce batch rounds message outcome isCancelled => cases outcome <;> cases halts; rfl
  | flush outcome isCancelled => cases outcome <;> cases halts; rfl
  | terminate result outcome isCancelled => exact absurd rfl other

theorem exists_ending_after {resume : α → Phase} {outcome : Outcome ε α}
    {toError : ε → AgentError} (returns : ∀ halt, outcome ≠ .halted halt)
    (resumes : ∀ value, ∃ result, resume value = .ending result) :
    ∃ result, Phase.after resume (outcome.mapError toError) = .ending result := by
  cases outcome with
  | done value => exact resumes value
  | failed error => exact ⟨_, rfl⟩
  | halted halt => exact absurd rfl (returns halt)

/-- Whatever a run would do next, it ends its cycles instead. -/
theorem Next.exists_ending_of_isCancelled (next : Next agent before entry after)
    (other : entry.call.callee ≠ .terminate) (cancelled : entry.isCancelled = true)
    (returns : entry.call.halt? = none) : ∃ result, after = .ending result := by
  cases next with
  | consumeBatch outcome isCancelled =>
      subst cancelled
      rcases outcome with _ | _ | _ | _
      case halted.crashed => cases returns
      all_goals exact ⟨_, rfl⟩
  | complete batch prompt rounds outcome isCancelled =>
      subst cancelled
      refine exists_ending_after (by rintro _ rfl; cases returns) fun reply => ?_
      unfold interpreting
      cases interpret prompt.operator reply batch <;> exact ⟨_, rfl⟩
  | produce batch rounds message outcome isCancelled =>
      subst cancelled
      exact exists_ending_after (by rintro _ rfl; cases returns) fun _ => ⟨_, rfl⟩
  | flush outcome isCancelled =>
      subst cancelled
      exact exists_ending_after (by rintro _ rfl; cases returns) fun _ => ⟨_, rfl⟩
  | terminate result outcome isCancelled => exact absurd rfl other

end

/-- A run that is cancelled before its first call makes no other call than the
termination, and comes to what that comes to. -/
theorem run_of_isCancelled (agent : Agent σ) (count : Nat) (state : σ)
    (cancelled : agent.isCancelled state = true) :
    ∃ terminated isCancelled, agent.entries count state = [⟨.terminate terminated, isCancelled⟩] ∧
      (agent.run count state).1 = terminated.mapError .messenger := by
  obtain ⟨last, course, closes⟩ := agent.run_course count state
  rw [cancelled] at course
  obtain ⟨terminated, isCancelled, made, outcome⟩ := Course.terminates course closes
  refine ⟨terminated, isCancelled, made, ?_⟩
  rw [outcome, concluded_ok]

/-- If a run is cancelled before it begins, it is only terminated. If it is
cancelled by the end of a call, whichever that is, only the termination comes after
that call. The run comes to what the termination comes to, unless the call has
failed, or the completion that it brings cannot be interpreted. A run that is
cancelled while it waits for completions, a production or a flush waits for that
call, and makes no other one until it returns; nor does it after a call that
crashes. -/
theorem run_cancellation (agent : Agent σ) (count : Nat) (state : σ) :
    (agent.isCancelled state = true →
      ∃ terminated isCancelled,
        agent.entries count state = [⟨.terminate terminated, isCancelled⟩] ∧
        (agent.run count state).1 = terminated.mapError .messenger) ∧
    ∀ earlier entry later,
      agent.entries count state = earlier ++ entry :: later →
      entry.call.callee ≠ .terminate → entry.isCancelled = true →
      (∀ halt, entry.call.halt? = some halt →
        later = [] ∧ (agent.run count state).1 = .halted halt) ∧
      (entry.call.halt? = none →
        ∃ terminated isCancelled,
          later = [⟨.terminate terminated, isCancelled⟩] ∧
          (agent.callFailure? (earlier.map Entry.call) entry.call = none →
            (agent.run count state).1 = terminated.mapError .messenger) ∧
          ∀ error, agent.callFailure? (earlier.map Entry.call) entry.call = some error →
            terminated.returns = true → (agent.run count state).1 = .failed error) := by
  refine ⟨agent.run_of_isCancelled count state, ?_⟩
  intro earlier entry later made other cancelled
  obtain ⟨before, after, last, reached, next, rest, closes⟩ :=
    agent.exists_next_of_entries count state made
  have failure := next.ending_error_iff reached.cyclesSoFar
  rw [failureOf?_of_isCancelled _ cancelled] at failure
  constructor
  · intro halt halts
    rw [next.eq_standing_of_halt? other halts] at rest
    obtain ⟨rfl, rfl⟩ := rest.eq_nil_of_standing
    generalize (agent.run count state).1 = outcome at closes ⊢
    cases closes
    exact ⟨rfl, rfl⟩
  · intro returns
    obtain ⟨result, rfl⟩ := next.exists_ending_of_isCancelled other cancelled returns
    obtain ⟨terminated, isCancelled, only, outcome⟩ := rest.terminates closes
    refine ⟨terminated, isCancelled, only, ?_, ?_⟩
    · intro succeeds
      cases result with
      | ok _ => rw [outcome, concluded_ok]
      | error error =>
          have failed := (failure error).mp rfl
          rw [succeeds] at failed
          cases failed
    · intro error failed returned
      have ended := (failure error).mpr failed
      cases ended
      rw [outcome, concluded_error returned]

/-- A flush that fails while the run is cancelled, with another batch to come. -/
def lostFlush : Rehearsal.Stage where
  batches := [{ outcome := .done [.user "first"] }, { outcome := .done [.user "second"] }]
  flushes := [{ outcome := .failed (.flush "lost"), cancels := true }]

theorem entries_lostFlush :
    idleAgent.entries 2 lostFlush =
      [⟨.consumeBatch (.done [.user "first"]), false⟩] ++
        ⟨.flush (.failed (.flush "lost")), true⟩ :: [⟨.terminate (.done ()), true⟩] := by decide

/-- The second batch is not consumed, and the failure of the flush is told. -/
theorem run_lostFlush :
    (idleAgent.run 2 lostFlush).1 = .failed (.messenger (.flush "lost")) := by
  obtain ⟨terminated, isCancelled, only, _, failed⟩ :=
    ((run_cancellation idleAgent 2 lostFlush).2 _ _ _ entries_lostFlush (by decide) rfl).2 rfl
  obtain ⟨⟨rfl⟩, _⟩ := Entry.mk.inj (List.cons_eq_cons.mp only).1
  exact failed _ rfl rfl

/-- A run that is cancelled before it begins does not consume what there is. -/
example : idleAgent.calls 2 { twoBatches with isCancelled := true } = [.terminate (.done ())] := by
  decide

end PromptRelay.Agent
