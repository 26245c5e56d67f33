import PromptRelay.Proofs.Agent.Cycle
import PromptRelay.Rehearsal

/-!
Contract: the shape of a whole run.

Owns:
- that the calls of a run that returns are cycles that are flushed, a part of one
  more cycle, and one termination.

Does not own: what the calls are made with, and what the run comes to.
-/

namespace PromptRelay.Agent

variable {agent : Agent σ}

theorem RoundsEnd.callee_ne_terminate {batch : List Message} {answers : Nat} {closing : List Call}
    (ended : RoundsEnd agent batch answers closing) :
    ∀ call ∈ closing, call.callee ≠ .terminate := by
  cases ended with
  | exhausted _ => simp
  | unanswered _ _ _ => simp [Call.callee]

/-- No cycle terminates the transport. -/
theorem IsCycle.callee_ne_terminate {cycle : List Call} (isCycle : agent.IsCycle cycle) :
    ∀ call ∈ cycle, call.callee ≠ .terminate := by
  obtain ⟨batch, rounds, closing, ended, rfl⟩ := isCycle
  intro call member
  simp only [List.mem_cons, List.mem_append, List.mem_flatMap, Round.calls] at member
  rcases member with rfl | (⟨round, _, rfl | rfl | none⟩ | inClosing) | rfl | none
  · simp [Call.callee]
  · simp [Call.callee]
  · simp [Call.callee]
  · contradiction
  · exact ended.callee_ne_terminate call inClosing
  · simp [Call.callee]
  · contradiction

theorem IsPartOfCycle.callee_ne_terminate {part : List Call} (isPart : agent.IsPartOfCycle part) :
    ∀ call ∈ part, call.callee ≠ .terminate := by
  obtain ⟨cycle, isCycle, _, named⟩ := isPart
  intro call member
  have mapped : call.callee ∈ cycle.map Call.callee :=
    named.subset (List.mem_map_of_mem member)
  obtain ⟨other, inCycle, same⟩ := List.mem_map.mp mapped
  rw [← same]
  exact isCycle.callee_ne_terminate other inCycle

/-- The calls of a run that returns are those of any number of flushed cycles, of a
part of a cycle, which may be empty or whole, and one termination, which is the
last. They are all calls of the run, however many more cycles are looked at. -/
theorem calls_eq_cycles_part_terminate (agent : Agent σ) (count : Nat) (state : σ)
    (returns : (agent.run count state).1.returns = true) :
    ∃ cycles part terminated,
      agent.calls count state = List.flatten cycles ++ part ++ [.terminate terminated] ∧
      (∀ cycle ∈ cycles, agent.IsCycle cycle) ∧
      agent.IsPartOfCycle part ∧
      (∀ call ∈ List.flatten cycles ++ part, call.callee ≠ .terminate) ∧
      ∀ larger, count ≤ larger → agent.calls larger state = agent.calls count state := by
  have complete (larger : Nat) (more : count ≤ larger) :
      agent.calls larger state = agent.calls count state := by
    rw [Agent.calls, Agent.calls, agent.entries_eq_of_returns state more returns]
  obtain ⟨last, course, closes⟩ := agent.run_course count state
  obtain ⟨cycles, whole, calls, areCycles, situated⟩ := course.cyclesSoFar
  generalize (agent.run count state).1 = outcome at returns closes
  cases closes with
  | standing halt => cases returns
  | consuming => cases returns
  | finished outcome =>
      cases situated with
      | @finished part _ terminated isPart =>
          refine ⟨cycles, part, terminated, ?_, areCycles, isPart, ?_, complete⟩
          · rw [Agent.calls, calls, List.append_assoc]
          · intro call member
            rcases List.mem_append.mp member with inCycles | inPart
            · obtain ⟨cycle, isOne, inCycle⟩ := List.mem_flatten.mp inCycles
              exact (areCycles cycle isOne).callee_ne_terminate call inCycle
            · exact isPart.callee_ne_terminate call inPart

/-- An agent that only consumes and flushes. -/
def idleAgent : Agent Rehearsal.Stage :=
  Rehearsal.agent Rehearsal.batchMessenger
    { template := default, environment? := fun _ => none } 0 false

/-- A template that is the same text for every batch. -/
def textRenderer (text : String) : Renderer where
  template := { nodes := [.text text.toList], routines := [], blocks := [] }
  environment? _ := none

/-- An agent that answers a batch twice. -/
def twiceAgent : Agent Rehearsal.Stage :=
  Rehearsal.agent Rehearsal.batchMessenger (textRenderer "inputs: []") 2 false

/-- Two batches, of which the second gets one answer only, and is flushed while the run
is cancelled. -/
def twoBatches : Rehearsal.Stage where
  batches := [{ outcome := .done [.user "first"] }, { outcome := .done [.user "second"] }]
  completions := [{ outcome := .done (some (.assistant "one")) },
    { outcome := .done (some (.assistant "two")) },
    { outcome := .done (some (.assistant "three")) }, { outcome := .done none }]
  flushesLeft := some 2

theorem calls_twoBatches :
    (twiceAgent.run 3 twoBatches).1.returns = true ∧
    ∃ cycles part terminated,
      twiceAgent.calls 3 twoBatches = List.flatten cycles ++ part ++ [.terminate terminated] ∧
      (∀ cycle ∈ cycles, twiceAgent.IsCycle cycle) ∧
      twiceAgent.IsPartOfCycle part ∧
      (∀ call ∈ List.flatten cycles ++ part, call.callee ≠ .terminate) ∧
      ∀ larger, 3 ≤ larger → twiceAgent.calls larger twoBatches = twiceAgent.calls 3 twoBatches :=
  have returns : (twiceAgent.run 3 twoBatches).1.returns = true := by decide +kernel
  ⟨returns, calls_eq_cycles_part_terminate twiceAgent 3 twoBatches returns⟩

example : (twiceAgent.calls 3 twoBatches).map Call.callee =
    [.consumeBatch, .complete, .produce, .complete, .produce, .flush,
      .consumeBatch, .complete, .produce, .complete, .flush, .terminate] := by decide +kernel

end PromptRelay.Agent
