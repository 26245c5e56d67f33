import PromptRelay.Completion.Basic
import PromptRelay.Interpretation
import PromptRelay.Messenger.Basic
import PromptRelay.Prompt.Renderer

/-!
Contract: the loop that turns batches of messages into answers.

Owns:
- a cycle: consuming a batch, asking for completions of its prompt, producing
  what they mean, flushing;
- repeating cycles until one fails or the run is cancelled, and terminating the
  transport after that;
- what is reported on the way.

Does not own: transports, completion backends and the cancellation itself, which
are given as steps on a state.
-/

namespace PromptRelay

inductive AgentError where
  | messenger (error : MessengerError)
  | completion (error : CompletionError)
  | prompt (error : PromptError)
  | interpretation (error : InterpretError)
deriving DecidableEq, Repr

def AgentError.message : AgentError → String
  | .messenger error => error.message
  | .completion error => error.message
  | .prompt error => error.message
  | .interpretation error => error.message

/-! ## Reports -/

inductive Report where
  | started (backendName : String) (sinkMinimum : Nat)
  | consumed (size : Nat)
  | generated (content : String)
  | flushed (produced : Nat)
  | cancelled
  | terminationFailed (error : MessengerError)
deriving DecidableEq, Repr

namespace Report

def name : Report → String
  | .started .. => "agent.run.started"
  | .consumed _ => "agent.cycle.batch"
  | .generated _ => "agent.completion.generated"
  | .flushed _ => "agent.cycle.flushed"
  | .cancelled => "agent.run.cancelled"
  | .terminationFailed _ => "agent.run.terminate_failed"

def level : Report → String
  | .started .. | .generated _ | .cancelled => "info"
  | .consumed _ | .flushed _ => "debug"
  | .terminationFailed _ => "warn"

/-- What a report tells beside its name. -/
def fields : Report → List (String × Json.Value)
  | .started backendName sinkMinimum =>
    [("backend", .text backendName), ("sink_count_min", .integer sinkMinimum)]
  | .consumed size => [("size", .integer size)]
  | .generated content => [("content", .text content)]
  | .flushed produced => [("produced", .integer produced)]
  | .cancelled => []
  | .terminationFailed error => [("error", .text error.message)]

end Report

/-! ## Agents -/

/-- An agent, and the state that its surroundings work on. -/
structure Agent (σ : Type) where
  messenger : Messenger σ
  complete : List Message → Action CompletionError σ (Option Message)
  backendName : String
  renderer : Renderer
  /-- How many completions a batch is answered by. -/
  sinkMinimum : Nat
  isVerbose : Bool := false
  isCancelled : σ → Bool
  report : Report → σ → σ
  /-- What is reported does not touch the cancellation. -/
  isCancelled_report : ∀ told state, isCancelled (report told state) = isCancelled state

namespace Agent

/-- A step of an agent. -/
abbrev Step (σ α : Type) := Action AgentError σ α

def tell (agent : Agent σ) (report : Report) : Step σ Unit :=
  .change (agent.report report)

/-- Goes on unless the run is cancelled. -/
def unlessCancelled (agent : Agent σ) (next : Step σ (Option α)) : Step σ (Option α) := do
  if agent.isCancelled (← .read) then pure none else next

/-- Reports a completion, if there is one and the agent is verbose. -/
def tellCompletion (agent : Agent σ) (completion : Option Message) : Step σ Unit :=
  match agent.isVerbose, completion with
  | true, some completion => agent.tell (.generated completion.content)
  | _, _ => pure ()

/-- What a batch is answered by: the meaning of a completion of its prompt. -/
def answer (agent : Agent σ) (batch : List Message) : Step σ (Option Message) := do
  let prompt ← .ofComputation ((agent.renderer.render batch).mapError (.map .prompt))
  let completion ← (agent.complete prompt.inputs).mapError .completion
  agent.tellCompletion completion
  .ofExcept ((interpret prompt.operator completion batch).mapError .interpretation)

/-- Answers a batch the given number of times, or until there is no answer, and
counts the answers. Nothing comes of it once the run is cancelled. -/
def answerRounds (agent : Agent σ) (batch : List Message) :
    (rounds produced : Nat) → Step σ (Option Nat)
  | 0, produced => pure (some produced)
  | rounds + 1, produced =>
    agent.unlessCancelled do
      match ← agent.answer batch with
      | none => pure (some produced)
      | some message =>
        agent.unlessCancelled do
          (agent.messenger.produce message).mapError .messenger
          answerRounds agent batch rounds (produced + 1)

/-- The next batch. There is none if the run is cancelled before it is there. -/
def nextBatch (agent : Agent σ) : Step σ (Option (List Message)) :=
  agent.unlessCancelled fun state =>
    match agent.messenger.consumeBatch state with
    | (.done batch, state) => (.done (some batch), state)
    | (.failed error, state) => (.failed (.messenger error), state)
    | (.pending, state) => (if agent.isCancelled state then .done none else .pending, state)
    | (.crashed crash, state) => (.crashed crash, state)

/-- One cycle. It has no result if the run is cancelled before its end. -/
def cycle (agent : Agent σ) : Step σ (Option Unit) := do
  match ← agent.nextBatch with
  | none => pure none
  | some batch =>
    agent.tell (.consumed batch.length)
    match ← agent.answerRounds batch agent.sinkMinimum 0 with
    | none => pure none
    | some produced =>
      agent.unlessCancelled do
        agent.messenger.flush.mapError .messenger
        agent.tell (.flushed produced)
        pure (some ())

/-- Up to the given number of cycles. It returns once the run is cancelled; after
the last cycle there is nothing else to wait for. -/
def cycles (agent : Agent σ) : (count : Nat) → Step σ Unit
  | 0 => fun state => (if agent.isCancelled state then .done () else .pending, state)
  | count + 1 => do
    match ← agent.cycle with
    | none => pure ()
    | some () => cycles agent count

/-- Ends a run whose cycles have returned. The transport is terminated in any
case; its failure does not hide that of a cycle. -/
def finish (agent : Agent σ) (result : Except AgentError Unit) : Step σ Unit := fun state =>
  match result, agent.messenger.terminate state with
  | _, (.halted halt, state) => (.halted halt, state)
  | .ok (), (terminated, state) =>
    (terminated.mapError .messenger, agent.report .cancelled state)
  | .error error, (.done (), state) => (.failed error, state)
  | .error error, (.failed other, state) =>
    (.failed error, agent.report (.terminationFailed other) state)

/-- Runs until a cycle fails or the run is cancelled. Up to the given number of
cycles is looked at; a run that would begin another one does not return. Nor does
one that crashes, which ends at once. -/
def run (agent : Agent σ) (count : Nat) : Step σ Unit := do
  agent.tell (.started agent.backendName agent.sinkMinimum)
  fun state =>
    match agent.cycles count state with
    | (.done (), state) => agent.finish (.ok ()) state
    | (.failed error, state) => agent.finish (.error error) state
    | (.halted halt, state) => (.halted halt, state)

/-! ## Laws -/

theorem unlessCancelled_apply (agent : Agent σ) (next : Step σ (Option α)) (state : σ) :
    agent.unlessCancelled next state =
      if agent.isCancelled state then (.done none, state) else next state := by
  simp only [unlessCancelled, Action.bind_apply, Action.read_apply]
  split <;> rfl

theorem nextBatch_apply (agent : Agent σ) (state : σ) :
    agent.nextBatch state =
      if agent.isCancelled state then (.done none, state)
      else match agent.messenger.consumeBatch state with
        | (.done batch, state) => (.done (some batch), state)
        | (.failed error, state) => (.failed (.messenger error), state)
        | (.pending, state) =>
          (if agent.isCancelled state then .done none else .pending, state)
        | (.crashed crash, state) => (.crashed crash, state) :=
  agent.unlessCancelled_apply _ state

theorem run_apply (agent : Agent σ) (count : Nat) (state : σ) :
    agent.run count state =
      match agent.cycles count
        (agent.report (.started agent.backendName agent.sinkMinimum) state) with
      | (.done (), state) => agent.finish (.ok ()) state
      | (.failed error, state) => agent.finish (.error error) state
      | (.halted halt, state) => (.halted halt, state) := rfl

end Agent

end PromptRelay
