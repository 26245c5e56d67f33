import PromptRelay.Messenger.Bytes
import PromptRelay.Proofs.Agent.Recording
import PromptRelay.Proofs.Messenger.Operation
import PromptRelay.Proofs.Result

/-!
Contract: the reads of a byte transport that a run makes.

Owns:
- the reads of the byte transport, and the attempts to consume a batch that they are
  made by;
- what the reads of an attempt have to do with the batch that it brings;
- that every read of a run is part of an attempt, and that the attempts are those among
  its calls.

Does not own: what becomes of all payloads of a run.

Reads are noted beside the state of the surroundings, and are put to an attempt when
that is over. The agent that notes them is a simulation of the one that does not, so
that what is found about its attempts holds of the calls of the other.
-/

namespace PromptRelay

open Text (Bytes)

/-- What a byte transport is asked for once comes to. -/
abbrev Read := Outcome MessengerError (Option Bytes)

/-- The payloads that reads have delivered, in order. -/
def payloads (reads : List Read) : List Bytes :=
  reads.filterMap fun
    | .done payload => payload
    | _ => none

/-- An attempt to consume a batch. -/
structure Attempt where
  reads : List Read
  outcome : Outcome MessengerError (List Message)
deriving DecidableEq, Repr

/-- The batch that an attempt has brought. -/
def Attempt.batch? (attempt : Attempt) : Option (List Message) :=
  match attempt.outcome with
  | .done batch => some batch
  | _ => none

/-- A state, the attempts to consume that led to it, and the reads that are not part
of any of them. -/
structure Ledger (σ : Type) where
  state : σ
  reads : List Read := []
  attempts : List Attempt := []

namespace Ledger

def withState (state : σ) (ledger : Ledger σ) : Ledger σ :=
  { ledger with state }

/-- Performs a step that is no read. -/
def perform (action : Action ε σ α) : Action ε (Ledger σ) α :=
  action.onPart Ledger.state withState

/-- Performs a read and notes it. -/
def performRead (action : Transport σ (Option Bytes)) : Transport (Ledger σ) (Option Bytes) :=
  fun ledger =>
    let (outcome, state) := action ledger.state
    (outcome, { ledger with state, reads := ledger.reads ++ [outcome] })

/-- Performs an attempt to consume, to which its reads are put. -/
def performAttempt (action : Transport (Ledger σ) (List Message)) :
    Transport (Ledger σ) (List Message) :=
  fun ledger =>
    let (outcome, ledger) := action ledger
    (outcome, { ledger with
      reads := []
      attempts := ledger.attempts ++ [{ reads := ledger.reads, outcome }] })

end Ledger

/-- The byte transport that also notes its reads. -/
def ByteMessenger.noted (backend : ByteMessenger σ) : ByteMessenger (Ledger σ) where
  consume := Ledger.performRead backend.consume
  produce payload := Ledger.perform (backend.produce payload)
  flush := Ledger.perform backend.flush
  terminate := Ledger.perform backend.terminate

namespace Agent

section

variable (agent : Agent σ) (backend : ByteMessenger σ) (topics : Topics) (sourceMinimum : Nat)

/-- The agent with its messages over a byte transport. -/
def overBytes : Agent σ :=
  { agent with messenger := backend.toMessenger topics sourceMinimum }

/-- The agent over a byte transport that also notes its attempts to consume. -/
def ledgered : Agent (Ledger σ) where
  messenger :=
    let messenger := backend.noted.toMessenger topics sourceMinimum
    { messenger with consumeBatch := Ledger.performAttempt messenger.consumeBatch }
  complete inputs := Ledger.perform (agent.complete inputs)
  backendName := agent.backendName
  renderer := agent.renderer
  sinkMinimum := agent.sinkMinimum
  isVerbose := agent.isVerbose
  isCancelled ledger := agent.isCancelled ledger.state
  report told ledger := ledger.withState (agent.report told ledger.state)
  isCancelled_report told ledger := agent.isCancelled_report told ledger.state

/-- The ledger of a run at its end. -/
def ledger (count : Nat) (state : σ) : Ledger σ :=
  ((agent.ledgered backend topics sourceMinimum).run count { state }).2

end

/-- What the attempts to consume among these calls come to. -/
def consumptions (calls : List Call) : List (Outcome MessengerError (List Message)) :=
  calls.filterMap fun
    | .consumeBatch outcome => some outcome
    | _ => none

end Agent

/-! ## The reads of an attempt -/

/-- A message in front of the batch that an attempt brings. -/
def prepend (message : Message) :
    Outcome MessengerError (List Message) → Outcome MessengerError (List Message)
  | .done batch => .done (message :: batch)
  | .failed error => .failed error
  | .halted halt => .halted halt

/-- The reads of an attempt for which there is room, and what it comes to: it ends with
enough messages, with the end of a batch, with a payload that is no message, or with a
read that fails or does not return. -/
inductive Gathers : List Read → Outcome MessengerError (List Message) → Prop where
  | enough : Gathers [] (.done [])
  | ended : Gathers [.done none] (.done [])
  | failed (error) : Gathers [.failed error] (.failed error)
  | halted (halt) : Gathers [.halted halt] (.halted halt)
  | malformed {payload error} (refused : decode Message payload = .error error) :
      Gathers [.done (some payload)] (.failed (.wire error))
  | message {payload message reads outcome} (read : decode Message payload = .ok message)
      (rest : Gathers reads outcome) :
      Gathers (.done (some payload) :: reads) (prepend message outcome)

/-- A batch is what its payloads spell. -/
theorem Gathers.decode_payloads {reads : List Read}
    {outcome : Outcome MessengerError (List Message)} (gathers : Gathers reads outcome) :
    ∀ batch, outcome = .done batch → (payloads reads).map (decode Message) = batch.map .ok := by
  induction gathers with
  | enough => rintro batch ⟨⟩; rfl
  | ended => rintro batch ⟨⟩; rfl
  | failed error => rintro batch ⟨⟩
  | halted halt => rintro batch ⟨⟩
  | malformed refused => rintro batch ⟨⟩
  | @message payload message reads outcome read rest inductionHypothesis =>
      intro batch brought
      cases outcome with
      | done messages =>
          cases brought
          have onward := inductionHypothesis messages rfl
          have first : payloads (.done (some payload) :: reads) = payload :: payloads reads := rfl
          rw [first, List.map_cons, List.map_cons, onward, read]
      | failed error => cases brought
      | halted halt => cases brought

/-- Without a source, or without messages to wait for, nothing is to be read. -/
def IsIdle (topics : Topics) (sourceMinimum : Nat) : Prop :=
  topics.hasSource = false ∨ sourceMinimum = 0

/-- What the reads of an attempt have to do with what it comes to. It crashes before its
first read if there is no room for so many messages. -/
structure Accounts (topics : Topics) (sourceMinimum : Nat) (reads : List Read)
    (outcome : Outcome MessengerError (List Message)) : Prop where
  gathers : HasRoom sourceMinimum → Gathers reads outcome
  idle : HasRoom sourceMinimum → IsIdle topics sourceMinimum → reads = [] ∧ outcome = .done []
  crowded : ¬ HasRoom sourceMinimum → reads = [] ∧ outcome = .crashed .capacity

theorem Accounts.decode_payloads {topics : Topics} {sourceMinimum : Nat} {reads : List Read}
    {batch : List Message} (accounts : Accounts topics sourceMinimum reads (.done batch)) :
    (payloads reads).map (decode Message) = batch.map .ok := by
  by_cases room : HasRoom sourceMinimum
  · exact (accounts.gathers room).decode_payloads batch rfl
  · cases (accounts.crowded room).2

/-- What a read means for who asks for a message. -/
def messageOf : Read → Outcome MessengerError (Option Message)
  | .done none => .done none
  | .done (some payload) => .ofExcept (((decode Message payload).mapError .wire).map some)
  | .failed error => .failed error
  | .halted halt => .halted halt

/-- The next message that a byte transport delivers. -/
def ByteMessenger.nextMessage (backend : ByteMessenger σ) (topics : Topics) :
    Transport σ (Option Message) :=
  (backend.toMessenger topics 0).consume

/-- Reads one after the other, and the states that they start from and lead to. -/
inductive Reading (backend : ByteMessenger σ) : σ → List Read → σ → Prop where
  | nothing {state : σ} : Reading backend state [] state
  | read {state after : σ} {reads : List Read}
      (onward : Reading backend (backend.consume state).2 reads after) :
      Reading backend state ((backend.consume state).1 :: reads) after

section

variable {backend : ByteMessenger σ} {topics : Topics}

theorem nextMessage_apply (enabled : topics.hasSource = true) (state : σ) :
    backend.nextMessage topics state =
      (messageOf (backend.consume state).1, (backend.consume state).2) := by
  simp only [ByteMessenger.nextMessage, ByteMessenger.toMessenger, if_pos enabled,
    Action.bind_apply]
  rcases backend.consume state with ⟨read, after⟩
  cases read with
  | done payload =>
      cases payload with
      | none => rfl
      | some payload =>
          simp only [messageOf, Action.bind_apply, ByteMessenger.readPayload,
            Action.ofExcept_apply]
          cases decode Message payload <;> rfl
  | failed error => rfl
  | halted halt => rfl

/-- An attempt is a first message and the others, or ends with its first read. -/
theorem gather_succ_apply (enabled : topics.hasSource = true) (count : Nat) (state : σ) :
    gather (backend.nextMessage topics) (count + 1) state =
      match messageOf (backend.consume state).1, (backend.consume state).2 with
      | .done none, state => (.done [], state)
      | .done (some message), state =>
        let rest := gather (backend.nextMessage topics) count state
        (prepend message rest.1, rest.2)
      | .failed error, state => (.failed error, state)
      | .halted halt, state => (.halted halt, state) := by
  rw [gather, Action.bind_apply, nextMessage_apply enabled]
  rcases backend.consume state with ⟨read, after⟩
  simp only
  rcases messageOf read with message | error | _
  · cases message with
    | none => rfl
    | some message =>
        simp only [Action.bind_apply]
        rcases gather (backend.nextMessage topics) count after with ⟨outcome, last⟩
        cases outcome <;> rfl
  · rfl
  · rfl

/-- A disabled side brings empty batches without any read. -/
theorem gather_of_disabled (disabled : topics.hasSource = false) (count : Nat) (state : σ) :
    gather (backend.nextMessage topics) count state = (.done [], state) := by
  have nothing : backend.nextMessage topics = pure none := by
    simp [ByteMessenger.nextMessage, ByteMessenger.toMessenger, disabled]
  cases count with
  | zero => rfl
  | succ count => rw [gather, nothing]; rfl

/-- By induction on how many messages are still wanted: each read either ends the attempt or
leaves one that wants a message less. -/
theorem gather_reading (backend : ByteMessenger σ) (topics : Topics) (count : Nat) (state : σ) :
    ∃ reads,
      Reading backend state reads (gather (backend.nextMessage topics) count state).2 ∧
      Gathers reads (gather (backend.nextMessage topics) count state).1 ∧
      (IsIdle topics count →
        reads = [] ∧ (gather (backend.nextMessage topics) count state).1 = .done []) := by
  cases enabled : topics.hasSource with
  | false =>
      rw [gather_of_disabled enabled]
      exact ⟨[], .nothing, .enough, fun _ => ⟨rfl, rfl⟩⟩
  | true =>
      induction count generalizing state with
      | zero => exact ⟨[], .nothing, .enough, fun _ => ⟨rfl, rfl⟩⟩
      | succ count inductionHypothesis =>
          have busy : ¬ IsIdle topics (count + 1) := by simp [IsIdle, enabled]
          have reading (reads : List Read) (last : σ)
              (onward : Reading backend (backend.consume state).2 reads last) :=
            Reading.read onward
          rw [gather_succ_apply enabled]
          rcases consumed : backend.consume state with ⟨read, after⟩
          rw [consumed] at reading
          cases read with
          | done payload =>
              cases payload with
              | none => exact ⟨_, reading _ _ .nothing, .ended, (absurd · busy)⟩
              | some payload =>
                  simp only [messageOf]
                  cases spelled : decode Message payload with
                  | error error =>
                      exact ⟨_, reading _ _ .nothing, .malformed spelled, (absurd · busy)⟩
                  | ok message =>
                      obtain ⟨reads, onward, gathers, _⟩ := inductionHypothesis after
                      exact ⟨_, reading _ _ onward, .message spelled gathers,
                        (absurd · busy)⟩
          | failed error => exact ⟨_, reading _ _ .nothing, .failed error, (absurd · busy)⟩
          | halted halt => exact ⟨_, reading _ _ .nothing, .halted halt, (absurd · busy)⟩

/-- What an attempt reads accounts for what it comes to. -/
theorem collect_reading (backend : ByteMessenger σ) (topics : Topics) (count : Nat) (state : σ) :
    ∃ reads,
      Reading backend state reads (collect (backend.nextMessage topics) count state).2 ∧
      Accounts topics count reads (collect (backend.nextMessage topics) count state).1 := by
  by_cases room : HasRoom count
  · rw [collect_of_hasRoom room]
    obtain ⟨reads, reading, gathers, idle⟩ := gather_reading backend topics count state
    exact ⟨reads, reading, fun _ => gathers, fun _ => idle, (absurd room ·)⟩
  · rw [collect_of_not_hasRoom room]
    exact ⟨[], .nothing, (absurd · room), (absurd · room), fun _ => ⟨rfl, rfl⟩⟩

end

/-! ## Transports that answer alike -/

section

variable {related : σ → τ → Prop}

theorem gather_similar {left : Transport σ (Option α)} {right : Transport τ (Option α)}
    (similar : Action.Similar related left right) (count : Nat) :
    Action.Similar related (gather left count) (gather right count) := by
  induction count with
  | zero => exact .pure []
  | succ count inductionHypothesis =>
      refine .bind similar fun found => ?_
      cases found with
      | none => exact .pure []
      | some message => exact .bind inductionHypothesis fun messages => .pure (message :: messages)

theorem collect_similar {left : Transport σ (Option α)} {right : Transport τ (Option α)}
    (similar : Action.Similar related left right) (count : Nat) :
    Action.Similar related (collect left count) (collect right count) := by
  unfold collect
  split
  · exact gather_similar similar count
  · exact .halt _

theorem ByteMessenger.nextMessage_similar {left : ByteMessenger σ} {right : ByteMessenger τ}
    (similar : Action.Similar related left.consume right.consume) (topics : Topics) :
    Action.Similar related (left.nextMessage topics) (right.nextMessage topics) := by
  unfold ByteMessenger.nextMessage ByteMessenger.toMessenger
  dsimp only
  split
  · refine .bind similar fun found => ?_
    cases found with
    | none => exact .pure none
    | some payload => exact .bind (.ofExcept _) fun message => .pure (some message)
  · exact .pure none

end

/-! ## Reads that are noted -/

/-- A step does to a ledger what another does to its state, and notes reads. -/
def NotesReads (noted : Transport (Ledger σ) α) (plain : Transport σ α)
    (accounts : List Read → Outcome MessengerError α → Prop) : Prop :=
  ∀ ledger, ∃ reads,
    noted ledger = ((plain ledger.state).1,
      { ledger with state := (plain ledger.state).2, reads := ledger.reads ++ reads }) ∧
    accounts reads (plain ledger.state).1

theorem Reading.noted {backend : ByteMessenger σ} {ledger after : Ledger σ} {reads : List Read}
    (reading : Reading backend.noted ledger reads after) :
    after = { ledger with state := after.state, reads := ledger.reads ++ reads } := by
  induction reading with
  | nothing => simp
  | @read ledger after reads onward inductionHypothesis =>
      rw [inductionHypothesis]
      simp [ByteMessenger.noted, Ledger.performRead]

/-- An attempt reads what it accounts for. -/
theorem collect_notesReads (backend : ByteMessenger σ) (topics : Topics) (count : Nat) :
    NotesReads (collect (backend.noted.nextMessage topics) count)
      (collect (backend.nextMessage topics) count) (Accounts topics count) := by
  intro ledger
  have consumed : Action.Similar (fun (ledger : Ledger σ) state => ledger.state = state)
      backend.noted.consume backend.consume := by
    rintro ledger _ rfl
    exact ⟨rfl, rfl⟩
  obtain ⟨sameOutcome, sameState⟩ := collect_similar
    (ByteMessenger.nextMessage_similar consumed topics) count ledger ledger.state rfl
  obtain ⟨reads, reading, accounts⟩ := collect_reading backend.noted topics count ledger
  refine ⟨reads, Prod.ext sameOutcome ?_, sameOutcome ▸ accounts⟩
  rw [reading.noted, sameState]

/-! ## Ledgers of runs -/

namespace Agent

/-- A ledger is complete: every read is part of an attempt, and the attempts are those
among the calls of its run. -/
structure Balanced (topics : Topics) (sourceMinimum : Nat) (entries : List Entry)
    (ledger : Ledger σ) : Prop where
  reads : ledger.reads = []
  attempts : ledger.attempts.map Attempt.outcome = consumptions (entries.map Entry.call)
  accounts : ∀ attempt ∈ ledger.attempts,
    Accounts topics sourceMinimum attempt.reads attempt.outcome

/-- The recording of a run with a ledger, and of the same run without. -/
def Tallies (topics : Topics) (sourceMinimum : Nat) (left : Recording (Ledger σ))
    (right : Recording σ) : Prop :=
  left.entries = right.entries ∧ left.state.state = right.state ∧
    Balanced topics sourceMinimum left.entries left.state

section

variable {agent : Agent σ} {backend : ByteMessenger σ} {topics : Topics} {sourceMinimum : Nat}

theorem consumptions_concat (calls : List Call) (call : Call) :
    consumptions (calls ++ [call]) = consumptions calls ++ consumptions [call] :=
  List.filterMap_append

/-- A call that is no attempt to consume changes nothing about the attempts. -/
theorem noting_perform_similar {call : Outcome ε α → Call} {action : Action ε σ α}
    (other : ∀ outcome, consumptions [call outcome] = []) :
    Action.Similar (Tallies topics sourceMinimum)
      ((agent.ledgered backend topics sourceMinimum).noting call (Ledger.perform action))
      ((agent.overBytes backend topics sourceMinimum).noting call action) := by
  rintro ⟨⟨state, reads, attempts⟩, entries⟩ ⟨_, _⟩ ⟨rfl, rfl, balanced⟩
  refine ⟨rfl, rfl, rfl, balanced.reads, ?_, balanced.accounts⟩
  change attempts.map Attempt.outcome = consumptions ((entries ++ [_]).map Entry.call)
  rw [List.map_append, List.map_singleton, consumptions_concat, other, List.append_nil]
  exact balanced.attempts

theorem noting_performAttempt_similar :
    Action.Similar (Tallies topics sourceMinimum)
      (agent.ledgered backend topics sourceMinimum).recorded.messenger.consumeBatch
      (agent.overBytes backend topics sourceMinimum).recorded.messenger.consumeBatch := by
  rintro ⟨ledger, entries⟩ ⟨_, _⟩ ⟨rfl, rfl, balanced⟩
  obtain ⟨reads, noted, accounts⟩ :=
    collect_notesReads backend topics sourceMinimum ledger
  have tidy : ledger.reads = [] := balanced.reads
  rcases attempted : collect (backend.nextMessage topics) sourceMinimum ledger.state with
    ⟨outcome, after⟩
  rw [attempted] at noted accounts
  have performed : (agent.ledgered backend topics sourceMinimum).messenger.consumeBatch ledger =
      (outcome, { state := after, attempts := ledger.attempts ++ [{ reads, outcome }] }) := by
    change Ledger.performAttempt
      (collect (backend.noted.nextMessage topics) sourceMinimum) ledger = _
    simp only [Ledger.performAttempt, noted, tidy, List.nil_append]
  have plain : (agent.overBytes backend topics sourceMinimum).messenger.consumeBatch ledger.state =
      (outcome, after) := attempted
  simp only [recorded, noting, performed, plain]
  refine ⟨trivial, rfl, rfl, rfl, ?_, ?_⟩
  · change (ledger.attempts ++ [_]).map Attempt.outcome =
      consumptions ((entries ++ [_]).map Entry.call)
    rw [List.map_append, List.map_append, consumptions, List.filterMap_append]
    exact congrArg (· ++ [outcome]) balanced.attempts
  · intro attempt member
    rcases List.mem_append.mp member with earlier | last
    · exact balanced.accounts attempt earlier
    · rw [List.mem_singleton.mp last]
      exact accounts

theorem ledgered_simulation (agent : Agent σ) (backend : ByteMessenger σ) (topics : Topics)
    (sourceMinimum : Nat) :
    Simulation (agent.ledgered backend topics sourceMinimum).recorded
      (agent.overBytes backend topics sourceMinimum).recorded (Tallies topics sourceMinimum) where
  renderer := rfl
  backendName := rfl
  sinkMinimum := rfl
  isVerbose := rfl
  isCancelled := by
    rintro ⟨ledger, _⟩ ⟨_, _⟩ ⟨rfl, rfl, _⟩
    rfl
  report := by
    rintro told ⟨ledger, _⟩ ⟨_, _⟩ ⟨rfl, rfl, balanced⟩
    exact ⟨rfl, rfl, balanced.reads, balanced.attempts, balanced.accounts⟩
  consumeBatch := noting_performAttempt_similar
  produce message := by
    have performed : (agent.ledgered backend topics sourceMinimum).messenger.produce message =
        Ledger.perform ((agent.overBytes backend topics sourceMinimum).messenger.produce message) := by
      simp only [ledgered, overBytes, ByteMessenger.toMessenger]
      split <;> rfl
    have similar : Action.Similar (Tallies topics sourceMinimum)
        ((agent.ledgered backend topics sourceMinimum).noting (.produce message)
          (Ledger.perform ((agent.overBytes backend topics sourceMinimum).messenger.produce message)))
        ((agent.overBytes backend topics sourceMinimum).noting (.produce message)
          ((agent.overBytes backend topics sourceMinimum).messenger.produce message)) :=
      noting_perform_similar fun _ => rfl
    rw [← performed] at similar
    exact similar
  flush := noting_perform_similar fun _ => rfl
  terminate := noting_perform_similar fun _ => rfl
  complete _ := noting_perform_similar fun _ => rfl

/-- The ledger of a run is complete. -/
theorem balanced_ledger (agent : Agent σ) (backend : ByteMessenger σ) (topics : Topics)
    (sourceMinimum count : Nat) (state : σ) :
    Balanced topics sourceMinimum
      ((agent.overBytes backend topics sourceMinimum).entries count state)
      (agent.ledger backend topics sourceMinimum count state) := by
  have initial : Tallies topics sourceMinimum { state := ({ state } : Ledger σ) } { state } :=
    ⟨rfl, rfl, rfl, rfl, by simp⟩
  obtain ⟨_, same, _, balanced⟩ :=
    (agent.ledgered_simulation backend topics sourceMinimum).run count _ _ initial
  have erased : _ = (agent.ledger backend topics sourceMinimum count state) :=
    ((agent.ledgered backend topics sourceMinimum).recorded_simulation.run count
      { state := { state } } { state } rfl).2
  rw [same, erased] at balanced
  exact balanced

end

end Agent

end PromptRelay
