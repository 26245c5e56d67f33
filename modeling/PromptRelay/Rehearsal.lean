import PromptRelay.Agent
import PromptRelay.Messenger.Bytes

/-!
Contract: running transports and agents on a prepared script.

Owns:
- cues: what a call comes to, and whether the run is cancelled while it lasts;
- the stage, which holds the cues that are left and all that has happened;
- a byte transport, a messenger of whole batches and a completion backend that
  play cues.

Does not own: what is called and when.
-/

namespace PromptRelay.Rehearsal

open Text (Bytes)

/-- What a call comes to. -/
structure Cue (ε α : Type) where
  outcome : Outcome ε α
  /-- Whether the run is cancelled before the call returns. -/
  cancels : Bool := false
deriving Repr

/-- What happens on stage. -/
inductive Event where
  | consumeBatch
  | consumePayload
  | complete (inputs : List Message)
  | produce (message : Message)
  | producePayload (payload : Bytes)
  | flush
  | terminate
  /-- A cue has cancelled the run. -/
  | cancel
  | report (report : Report)
deriving DecidableEq, Repr

/-- What happens when there are no cues for consuming any more. -/
inductive Ending where
  /-- There is nothing to consume. -/
  | exhausted
  /-- The run is cancelled and the call does not return. -/
  | cancelling
deriving DecidableEq, Repr

structure Stage where
  batches : List (Cue MessengerError (List Message)) := []
  payloads : List (Cue MessengerError (Option Bytes)) := []
  productions : List (Cue MessengerError Unit) := []
  flushes : List (Cue MessengerError Unit) := []
  terminations : List (Cue MessengerError Unit) := []
  completions : List (Cue CompletionError (Option Message)) := []
  ending : Ending := .exhausted
  /-- How many flushes there are until one cancels the run. -/
  flushesLeft : Option Nat := none
  isCancelled : Bool := false
  /-- What has happened, in order. -/
  events : List Event := []

namespace Stage

def note (event : Event) (stage : Stage) : Stage :=
  { stage with events := stage.events ++ [event] }

def cancel (stage : Stage) : Stage :=
  { stage with isCancelled := true }

/-- Plays a cue. -/
def play (cue : Cue ε α) : Action ε Stage α := fun stage =>
  (cue.outcome, if cue.cancels then stage.cancel.note .cancel else stage)

/-- Plays the ending. -/
def playEnding (nothing : α) : Action ε Stage α := fun stage =>
  match stage.ending with
  | .exhausted => (.done nothing, stage)
  | .cancelling => (.pending, stage.cancel)

/-! ## Calls -/

def consumeBatch : Transport Stage (List Message) := fun stage =>
  let stage := stage.note .consumeBatch
  match stage.batches with
  | cue :: batches => play cue { stage with batches }
  | [] => playEnding [] stage

def consumePayload : Transport Stage (Option Bytes) := fun stage =>
  let stage := stage.note .consumePayload
  match stage.payloads with
  | cue :: payloads => play cue { stage with payloads }
  | [] => playEnding none stage

/-- Plays the next production. Without a cue it succeeds. -/
def playProduction (event : Event) : Transport Stage Unit := fun stage =>
  let stage := stage.note event
  match stage.productions with
  | cue :: productions => play cue { stage with productions }
  | [] => (.done (), stage)

/-- Counts a flush. The last one of those that are left cancels the run. -/
def countFlush (stage : Stage) : Stage :=
  match stage.flushesLeft with
  | none => stage
  | some left =>
    let stage := { stage with flushesLeft := some (left - 1) }
    if left ≤ 1 then stage.cancel else stage

def flush : Transport Stage Unit := fun stage =>
  let stage := (stage.note .flush).countFlush
  match stage.flushes with
  | cue :: flushes => play cue { stage with flushes }
  | [] => (.done (), stage)

def terminate : Transport Stage Unit := fun stage =>
  let stage := stage.note .terminate
  match stage.terminations with
  | cue :: terminations => play cue { stage with terminations }
  | [] => (.done (), stage)

/-- Plays the next completion. Without a cue there is none. -/
def complete (inputs : List Message) : Action CompletionError Stage (Option Message) :=
  fun stage =>
    let stage := stage.note (.complete inputs)
    match stage.completions with
    | cue :: completions => play cue { stage with completions }
    | [] => (.done none, stage)

def report (report : Report) (stage : Stage) : Stage :=
  stage.note (.report report)

end Stage

/-! ## Collaborators -/

/-- A byte transport that plays payloads. -/
def byteMessenger : ByteMessenger Stage where
  consume := Stage.consumePayload
  produce payload := Stage.playProduction (.producePayload payload)
  flush := Stage.flush
  terminate := Stage.terminate

/-- A messenger that plays whole batches. -/
def batchMessenger : Messenger Stage where
  sourceMinimum := 1
  consume := pure none
  consumeBatch := Stage.consumeBatch
  produce message := Stage.playProduction (.produce message)
  flush := Stage.flush
  terminate := Stage.terminate

/-- The name of the backend that plays completions. -/
def backendName : String := "scripted"

/-- An agent on a stage. -/
def agent (messenger : Messenger Stage) (renderer : Renderer) (sinkMinimum : Nat)
    (isVerbose : Bool) : Agent Stage where
  messenger
  complete := Stage.complete
  backendName
  renderer
  sinkMinimum
  isVerbose
  isCancelled := Stage.isCancelled
  report := Stage.report
  isCancelled_report _ _ := rfl

end PromptRelay.Rehearsal
