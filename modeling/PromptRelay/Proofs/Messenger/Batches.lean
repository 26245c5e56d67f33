import PromptRelay.Proofs.Agent.Ledger
import PromptRelay.Proofs.Messenger.Operation
import PromptRelay.Rehearsal

/-!
Contract: how far a batch reads a prepared script of reads, and what it makes of it.

Owns:
- byte transports whose reads play a script, whatever else they are asked for;
- the reads that a batch consists of, and what each kind of them brings;
- that every operation of a sequence goes on where the ones before it have stopped.

Does not own: agents, and transports whose reads depend on what is written to them.
-/

namespace PromptRelay

open Text (Bytes)

/-! ## Scripts -/

/-- How a byte transport goes through a script of reads. -/
structure Script (σ : Type) where
  /-- How many reads have been made. -/
  made : σ → Nat
  /-- What the reads from here on come to, one after the other. -/
  upcoming : σ → Nat → Read

/-- A transport makes its reads as the script has them. Nothing else that it is asked for
has to do with the script. -/
structure ByteMessenger.Plays (backend : ByteMessenger σ) (script : Script σ) : Prop where
  outcome : ∀ state, (backend.consume state).1 = script.upcoming state 0
  made : ∀ state, script.made (backend.consume state).2 = script.made state + 1
  upcoming : ∀ state place,
    script.upcoming (backend.consume state).2 place = script.upcoming state (place + 1)
  produce : ∀ payload state, let after := (backend.produce payload state).2
    script.made after = script.made state ∧ script.upcoming after = script.upcoming state
  flush : ∀ state, let after := (backend.flush state).2
    script.made after = script.made state ∧ script.upcoming after = script.upcoming state
  terminate : ∀ state, let after := (backend.terminate state).2
    script.made after = script.made state ∧ script.upcoming after = script.upcoming state

/-- What is read between two states: the next part of the script, and nothing more of it. -/
structure Script.Takes (script : Script σ) (before after : σ) (reads : List Read) : Prop where
  reads_eq : reads = (List.range reads.length).map (script.upcoming before)
  made : script.made after = script.made before + reads.length
  upcoming : ∀ place,
    script.upcoming after place = script.upcoming before (reads.length + place)

namespace Script.Takes

variable {script : Script σ} {before between after : σ} {first second : List Read}

theorem nothing (made : script.made after = script.made before)
    (upcoming : script.upcoming after = script.upcoming before) : script.Takes before after [] := by
  refine ⟨rfl, made, fun place => ?_⟩
  rw [upcoming, List.length_nil, Nat.zero_add]

theorem append (takes : script.Takes before between first)
    (onward : script.Takes between after second) : script.Takes before after (first ++ second) := by
  refine ⟨?_, ?_, fun place => ?_⟩
  · rw [List.length_append, List.range_add, List.map_append, ← takes.reads_eq, List.map_map]
    have shifted : second = (List.range second.length).map
        (script.upcoming before ∘ (first.length + ·)) := by
      calc
        second = (List.range second.length).map (script.upcoming between) := onward.reads_eq
        _ = _ := List.map_congr_left fun place _ => takes.upcoming place
    rw [← shifted]
  · rw [onward.made, takes.made, List.length_append, Nat.add_assoc]
  · rw [onward.upcoming, takes.upcoming, List.length_append, Nat.add_assoc]

end Script.Takes

theorem ByteMessenger.Plays.takes {backend : ByteMessenger σ} {script : Script σ}
    (plays : backend.Plays script) (state : σ) :
    script.Takes state (backend.consume state).2 [(backend.consume state).1] := by
  refine ⟨?_, plays.made state, fun place => ?_⟩
  · rw [plays.outcome]
    rfl
  · rw [plays.upcoming, List.length_singleton, Nat.add_comm]

/-! ## Batches -/

/-- The read that delivers a payload. -/
def arrival (payload : Bytes) : Read := .done (some payload)

/-- Payloads spell messages, one each. -/
def Spell (payloads : List Bytes) (messages : List Message) : Prop :=
  payloads.map (decode Message) = messages.map .ok

/-- The reads of a batch of up to `count` messages, for which there is room, and what the
batch comes to. They go up to
the first of these: the last payload that is wanted, the end of a batch, a read that fails or
does not return, or a payload that spells no message. All payloads before spell messages. -/
inductive Fills (count : Nat) : List Read → Outcome MessengerError (List Message) → Prop where
  | enough {payloads : List Bytes} {messages : List Message} (spell : Spell payloads messages)
      (all : payloads.length = count) :
      Fills count (payloads.map arrival) (.done messages)
  | ended {payloads : List Bytes} {messages : List Message} (spell : Spell payloads messages)
      (fewer : payloads.length < count) :
      Fills count (payloads.map arrival ++ [.done none]) (.done messages)
  | failed {payloads : List Bytes} {messages : List Message} (spell : Spell payloads messages)
      (fewer : payloads.length < count) (error : MessengerError) :
      Fills count (payloads.map arrival ++ [.failed error]) (.failed error)
  | malformed {payloads : List Bytes} {messages : List Message} (spell : Spell payloads messages)
      (fewer : payloads.length < count) {payload : Bytes} {error : WireError}
      (refused : decode Message payload = .error error) :
      Fills count (payloads.map arrival ++ [arrival payload]) (.failed (.wire error))
  | halted {payloads : List Bytes} {messages : List Message} (spell : Spell payloads messages)
      (fewer : payloads.length < count) (halt : Halt) :
      Fills count (payloads.map arrival ++ [.halted halt]) (.halted halt)

theorem spell_nil : Spell [] [] := rfl

theorem Spell.cons {payload : Bytes} {message : Message} {payloads : List Bytes}
    {messages : List Message} (read : decode Message payload = .ok message)
    (spell : Spell payloads messages) : Spell (payload :: payloads) (message :: messages) := by
  rw [Spell, List.map_cons, List.map_cons, read, spell]

theorem Spell.length_eq {payloads : List Bytes} {messages : List Message}
    (spell : Spell payloads messages) : messages.length = payloads.length := by
  have lengths := congrArg List.length spell
  rw [List.length_map, List.length_map] at lengths
  exact lengths.symm

theorem Fills.cons {count : Nat} {payload : Bytes} {message : Message} {reads : List Read}
    {outcome : Outcome MessengerError (List Message)}
    (read : decode Message payload = .ok message) (fills : Fills count reads outcome) :
    Fills (count + 1) (arrival payload :: reads) (prepend message outcome) := by
  cases fills with
  | enough spell all => exact .enough (spell.cons read) (congrArg Nat.succ all)
  | ended spell fewer => exact .ended (spell.cons read) (Nat.succ_lt_succ fewer)
  | failed spell fewer error => exact .failed (spell.cons read) (Nat.succ_lt_succ fewer) error
  | malformed spell fewer refused =>
      exact .malformed (spell.cons read) (Nat.succ_lt_succ fewer) refused
  | halted spell fewer halt => exact .halted (spell.cons read) (Nat.succ_lt_succ fewer) halt

/-- A batch is never too large, and it is too small only if it has read the end of one. -/
theorem Fills.length_le {count : Nat} {reads : List Read} {messages : List Message}
    (fills : Fills count reads (.done messages)) :
    messages.length ≤ count ∧
      (messages.length < count → reads.getLast? = some (.done none)) := by
  cases fills with
  | enough spell all =>
      rw [spell.length_eq]
      omega
  | ended spell fewer =>
      rw [spell.length_eq]
      exact ⟨Nat.le_of_lt fewer, fun _ => List.getLast?_concat⟩

theorem Fills.eq_nil {reads : List Read} {outcome : Outcome MessengerError (List Message)}
    (fills : Fills 0 reads outcome) : reads = [] := by
  cases fills with
  | enough spell all =>
      rw [List.length_eq_zero_iff] at all
      rw [all, List.map_nil]
  | ended spell fewer => exact absurd fewer (Nat.not_lt_zero _)
  | failed spell fewer error => exact absurd fewer (Nat.not_lt_zero _)
  | malformed spell fewer refused => exact absurd fewer (Nat.not_lt_zero _)
  | halted spell fewer halt => exact absurd fewer (Nat.not_lt_zero _)

/-! ## Operations -/

/-- What an operation answers leaves the state alone. -/
theorem Action.bind_pure_state (action : Action ε σ α) (answer : α → β) (state : σ) :
    ((action >>= fun value => pure (answer value)) state).2 = (action state).2 := by
  rw [bind_apply]
  rcases action state with ⟨outcome, after⟩
  cases outcome <;> rfl

section

variable {backend : ByteMessenger σ} {script : Script σ} (plays : backend.Plays script)
  {topics : Topics}

include plays

/-- By induction on how many messages are still wanted: each read either ends the batch or
leaves a batch that wants one less. -/
theorem gather_takes (enabled : topics.hasSource = true) (count : Nat) (state : σ) :
    ∃ reads,
      script.Takes state (gather (backend.nextMessage topics) count state).2 reads ∧
      Fills count reads (gather (backend.nextMessage topics) count state).1 := by
  induction count generalizing state with
  | zero => exact ⟨[], .nothing rfl rfl, .enough spell_nil rfl⟩
  | succ count inductionHypothesis =>
      have takes := plays.takes state
      rw [gather_succ_apply enabled]
      rcases read : backend.consume state with ⟨outcome, after⟩
      rw [read] at takes
      have few : ([] : List Bytes).length < count + 1 := Nat.succ_pos count
      cases outcome with
      | done payload =>
          cases payload with
          | none => exact ⟨_, takes, .ended spell_nil few⟩
          | some payload =>
              simp only [messageOf]
              cases spelled : decode Message payload with
              | error error => exact ⟨_, takes, .malformed spell_nil few spelled⟩
              | ok message =>
                  obtain ⟨reads, onward, fills⟩ := inductionHypothesis after
                  exact ⟨_, takes.append onward, fills.cons spelled⟩
      | failed error => exact ⟨_, takes, .failed spell_nil few error⟩
      | halted halt => exact ⟨_, takes, .halted spell_nil few halt⟩

/-- Without room for a batch, nothing is read. -/
theorem consumeBatch_takes (enabled : topics.hasSource = true) (count : Nat) (state : σ) :
    ∃ reads, script.Takes state
      ((backend.toMessenger topics count).consumeBatch state).2 reads := by
  change ∃ reads, script.Takes state (collect (backend.nextMessage topics) count state).2 reads
  unfold collect
  split
  · obtain ⟨reads, takes, _⟩ := gather_takes plays enabled count state
    exact ⟨reads, takes⟩
  · exact ⟨[], .nothing rfl rfl⟩

theorem consume_takes (enabled : topics.hasSource = true) (count : Nat) (state : σ) :
    let messenger := backend.toMessenger topics count
    script.Takes state (messenger.consume state).2 [script.upcoming state 0] ∧
      (messenger.consume state).1 = messageOf (script.upcoming state 0) := by
  have consumed : (backend.toMessenger topics count).consume state =
      (messageOf (backend.consume state).1, (backend.consume state).2) :=
    nextMessage_apply enabled state
  show script.Takes state ((backend.toMessenger topics count).consume state).2 _ ∧
    ((backend.toMessenger topics count).consume state).1 = _
  rw [consumed, ← plays.outcome]
  exact ⟨plays.takes state, rfl⟩

/-- What writes to a transport, or ends it, reads nothing. -/
theorem perform_takes_nothing (count : Nat) (state : σ) {operation : Operation}
    (notConsume : operation ≠ .consume) (notConsumeBatch : operation ≠ .consumeBatch) :
    script.Takes state ((backend.toMessenger topics count).perform operation state).2 [] := by
  cases operation with
  | consume => exact absurd rfl notConsume
  | consumeBatch => exact absurd rfl notConsumeBatch
  | produce message =>
      rw [Messenger.perform, Action.bind_pure_state]
      by_cases enabled : topics.hasSink = true
      · have written := plays.produce (ByteMessenger.payloadOf message) state
        simp only [ByteMessenger.toMessenger, if_pos enabled]
        exact .nothing written.1 written.2
      · simp only [ByteMessenger.toMessenger, if_neg enabled]
        exact .nothing rfl rfl
  | flush =>
      rw [Messenger.perform, Action.bind_pure_state]
      exact .nothing (plays.flush state).1 (plays.flush state).2
  | terminate =>
      rw [Messenger.perform, Action.bind_pure_state]
      exact .nothing (plays.terminate state).1 (plays.terminate state).2

theorem perform_takes (enabled : topics.hasSource = true) (count : Nat) (operation : Operation)
    (state : σ) :
    ∃ reads, script.Takes state
      ((backend.toMessenger topics count).perform operation state).2 reads := by
  by_cases consumes : operation = .consume
  · subst consumes
    rw [Messenger.perform, Action.bind_pure_state]
    exact ⟨_, (consume_takes plays enabled count state).1⟩
  · by_cases consumesBatch : operation = .consumeBatch
    · subst consumesBatch
      rw [Messenger.perform, Action.bind_pure_state]
      exact consumeBatch_takes plays enabled count state
    · exact ⟨[], perform_takes_nothing plays count state consumes consumesBatch⟩

/-- Wherever the ones before it have stopped, an operation goes on. -/
theorem after_takes (enabled : topics.hasSource = true) (count : Nat)
    (operations : List Operation) (state : σ) :
    ∃ reads, script.Takes state
      ((backend.toMessenger topics count).after operations state) reads := by
  induction operations generalizing state with
  | nil => exact ⟨[], .nothing rfl rfl⟩
  | cons operation operations inductionHypothesis =>
      obtain ⟨first, takes⟩ := perform_takes plays enabled count operation state
      obtain ⟨others, onward⟩ := inductionHypothesis
        ((backend.toMessenger topics count).perform operation state).2
      exact ⟨first ++ others, takes.append onward⟩

end

/-! ## Summary -/

/-- Over a transport that plays a script, after whatever operations: what has been read so far
is the script up to some place. From there a batch reads up to the first of its last wanted
payload, the end of a batch, a failure, and a payload that spells no message. In the first two
cases it is what the payloads spell, in their order, and otherwise it fails with that very
error. It is never too large, is too small only at the end of a batch, and reads nothing if no
messages are wanted. If there is no room for as many as are wanted, it crashes and has read
nothing. A message alone is one read, and what does not consume reads nothing. -/
theorem consumeBatch_of_script {backend : ByteMessenger σ} {script : Script σ}
    (plays : backend.Plays script) {topics : Topics} (enabled : topics.hasSource = true)
    (count : Nat) (operations : List Operation) (state : σ) :
    let messenger := backend.toMessenger topics count
    let before := messenger.after operations state
    (∃ reads, script.Takes state before reads) ∧
    (HasRoom count → ∃ reads,
      script.Takes before (messenger.consumeBatch before).2 reads ∧
      Fills count reads (messenger.consumeBatch before).1 ∧
      (∀ messages, (messenger.consumeBatch before).1 = .done messages →
        messages.length ≤ count ∧
          (messages.length < count → reads.getLast? = some (.done none))) ∧
      (count = 0 → reads = [])) ∧
    (¬ HasRoom count → messenger.consumeBatch before = (.crashed .capacity, before)) ∧
    (script.Takes before (messenger.consume before).2 [script.upcoming before 0] ∧
      (messenger.consume before).1 = messageOf (script.upcoming before 0)) ∧
    ∀ operation, operation ≠ .consume → operation ≠ .consumeBatch →
      script.Takes before (messenger.perform operation before).2 [] := by
  intro messenger before
  have collected : messenger.consumeBatch = collect (backend.nextMessage topics) count := rfl
  refine ⟨after_takes plays enabled count operations state, ?_, ?_,
    consume_takes plays enabled count before, ?_⟩
  · intro room
    obtain ⟨reads, takes, fills⟩ := gather_takes plays enabled count before
    rw [collected, collect_of_hasRoom room]
    refine ⟨reads, takes, fills, ?_, ?_⟩
    · intro messages brought
      rw [brought] at fills
      exact fills.length_le
    · intro none
      subst none
      exact fills.eq_nil
  · intro crowded
    rw [collected, collect_of_not_hasRoom crowded]
    rfl
  · intro operation notConsume notConsumeBatch
    exact perform_takes_nothing plays count before notConsume notConsumeBatch

namespace Rehearsal

/-- The script of cues for payloads. What is read on stage is noted there. -/
def script : Script Stage where
  made stage := stage.events.count .consumePayload
  upcoming stage place :=
    match stage.payloads[place]? with
    | some cue => cue.outcome
    | none =>
      match stage.ending with
      | .exhausted => .done none
      | .cancelling => .pending

/-- Stages with the same reads, made and to come. -/
structure SameReads (before after : Stage) : Prop where
  events : after.events.count .consumePayload = before.events.count .consumePayload
  payloads : after.payloads = before.payloads
  ending : after.ending = before.ending

namespace SameReads

variable {before between after : Stage}

theorem trans (first : SameReads before between) (second : SameReads between after) :
    SameReads before after :=
  ⟨second.events.trans first.events, second.payloads.trans first.payloads,
    second.ending.trans first.ending⟩

theorem script_eq (same : SameReads before after) :
    script.made after = script.made before ∧ script.upcoming after = script.upcoming before := by
  refine ⟨same.events, funext fun place => ?_⟩
  simp only [script, same.payloads, same.ending]

/-- Playing a cue may cancel the run, which is no read. -/
theorem play (cue : Cue ε α) (stage : Stage) : SameReads stage (Stage.play cue stage).2 := by
  unfold Stage.play
  by_cases cancels : cue.cancels = true
  · rw [if_pos cancels]
    exact ⟨by simp [Stage.note, Stage.cancel], rfl, rfl⟩
  · rw [if_neg cancels]
    exact ⟨rfl, rfl, rfl⟩

theorem note {event : Event} (noRead : event ≠ .consumePayload) (stage : Stage) :
    SameReads stage (stage.note event) :=
  ⟨by simp [Stage.note, noRead], rfl, rfl⟩

theorem countFlush (stage : Stage) : SameReads stage stage.countFlush := by
  unfold Stage.countFlush
  cases stage.flushesLeft with
  | none => exact ⟨rfl, rfl, rfl⟩
  | some left =>
      dsimp only
      by_cases last : left ≤ 1
      · rw [if_pos last]
        exact ⟨rfl, rfl, rfl⟩
      · rw [if_neg last]
        exact ⟨rfl, rfl, rfl⟩

theorem playProduction {event : Event} (noRead : event ≠ .consumePayload) (stage : Stage) :
    SameReads stage (Stage.playProduction event stage).2 := by
  have noted := note noRead stage
  unfold Stage.playProduction
  dsimp only
  split
  case h_1 cue productions _ =>
    have played := play cue { stage.note event with productions }
    exact noted.trans ⟨played.events, played.payloads, played.ending⟩
  case h_2 => exact noted

theorem flush (stage : Stage) : SameReads stage (Stage.flush stage).2 := by
  have noRead : Event.flush ≠ .consumePayload := by simp
  have noted := (note noRead stage).trans (countFlush _)
  unfold Stage.flush
  dsimp only
  split
  case h_1 cue flushes _ =>
    have played := play cue { (stage.note .flush).countFlush with flushes }
    exact noted.trans ⟨played.events, played.payloads, played.ending⟩
  case h_2 => exact noted

theorem terminate (stage : Stage) : SameReads stage (Stage.terminate stage).2 := by
  have noRead : Event.terminate ≠ .consumePayload := by simp
  have noted := note noRead stage
  unfold Stage.terminate
  dsimp only
  split
  case h_1 cue terminations _ =>
    have played := play cue { stage.note .terminate with terminations }
    exact noted.trans ⟨played.events, played.payloads, played.ending⟩
  case h_2 => exact noted

end SameReads

/-- A read plays the next cue, or the ending for ever. -/
theorem consumePayload_plays (stage : Stage) :
    (Stage.consumePayload stage).1 = script.upcoming stage 0 ∧
      script.made (Stage.consumePayload stage).2 = script.made stage + 1 ∧
      ∀ place, script.upcoming (Stage.consumePayload stage).2 place =
        script.upcoming stage (place + 1) := by
  unfold Stage.consumePayload
  dsimp only
  split
  case h_1 cue payloads cues =>
    have cues : stage.payloads = cue :: payloads := cues
    have played := (SameReads.play cue { stage.note .consumePayload with payloads }).script_eq
    refine ⟨by simp [Stage.play, script, cues], ?_, fun place => ?_⟩
    · rw [played.1]
      simp [script, Stage.note]
    · rw [played.2]
      simp [script, Stage.note, cues]
  case h_2 cues =>
    have cues : stage.payloads = [] := cues
    have ending : (stage.note .consumePayload).ending = stage.ending := rfl
    unfold Stage.playEnding
    rw [ending]
    cases lasts : stage.ending with
    | exhausted => simp [script, Stage.note, cues, lasts]
    | cancelling => simp [script, Stage.note, Stage.cancel, cues, lasts]

theorem byteMessenger_plays : byteMessenger.Plays script where
  outcome stage := (consumePayload_plays stage).1
  made stage := (consumePayload_plays stage).2.1
  upcoming stage := (consumePayload_plays stage).2.2
  produce _ stage := (SameReads.playProduction (by simp) stage).script_eq
  flush stage := (SameReads.flush stage).script_eq
  terminate stage := (SameReads.terminate stage).script_eq

end Rehearsal

/-- A side that questions come from. -/
def openTopics : Topics := { sources := ["questions"] }

/-- Three messages with the end of a batch before the last, and a payload that is none. -/
def fivePayloads : Rehearsal.Stage where
  payloads := [
    { outcome := .done (some (ByteMessenger.payloadOf (.user "first"))) },
    { outcome := .done (some (ByteMessenger.payloadOf (.user "second"))) },
    { outcome := .done none },
    { outcome := .done (some (ByteMessenger.payloadOf (.user "third"))) },
    { outcome := .done (some []) }]

/-- After one message and a flush, a batch is short, since it finds its end as the third read.
The next one goes on behind that, and fails by the last payload. -/
theorem consumeBatch_fivePayloads :
    let messenger := Rehearsal.byteMessenger.toMessenger openTopics 2
    let first := messenger.after [.consume, .flush] fivePayloads
    let second := messenger.after [.consume, .flush, .consumeBatch] fivePayloads
    openTopics.hasSource = true ∧
      (∃ reads, Rehearsal.script.Takes first (messenger.consumeBatch first).2 reads ∧
        Fills 2 reads (.done [.user "second"]) ∧ reads.getLast? = some (.done none)) ∧
      (∃ reads, Rehearsal.script.Takes fivePayloads second reads) ∧
      ∃ reads, Rehearsal.script.Takes second (messenger.consumeBatch second).2 reads ∧
        Fills 2 reads (.failed (.wire ⟨.truncated⟩)) := by
  intro messenger first second
  have enabled : openTopics.hasSource = true := rfl
  have firstOutcome : (messenger.consumeBatch first).1 = .done [.user "second"] := by
    decide +kernel
  have secondOutcome : (messenger.consumeBatch second).1 = .failed (.wire ⟨.truncated⟩) := by
    decide +kernel
  have room : HasRoom 2 := by decide
  obtain ⟨_, early, _⟩ :=
    consumeBatch_of_script Rehearsal.byteMessenger_plays enabled 2
      [.consume, .flush] fivePayloads
  obtain ⟨soFar, late, _⟩ :=
    consumeBatch_of_script Rehearsal.byteMessenger_plays enabled 2
      [.consume, .flush, .consumeBatch] fivePayloads
  obtain ⟨early, earlyTakes, earlyFills, short, _⟩ := early room
  obtain ⟨late, lateTakes, lateFills, _, _⟩ := late room
  rw [show (messenger.consumeBatch first).1 = _ from firstOutcome] at earlyFills
  rw [show (messenger.consumeBatch second).1 = _ from secondOutcome] at lateFills
  exact ⟨enabled, ⟨early, earlyTakes, earlyFills, (short _ firstOutcome).2 (by decide)⟩, soFar,
    late, lateTakes, lateFills⟩

end PromptRelay
