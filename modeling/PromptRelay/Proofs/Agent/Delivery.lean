import PromptRelay.Proofs.Agent.Ledger
import PromptRelay.Proofs.Agent.Shape

/-!
Contract: what becomes of the payloads that a byte transport delivers to a run.

Owns:
- that each batch is what the payloads of its attempt spell, in their order, and that
  all batches are what the payloads spell that were delivered to them;
- that only the last attempt of a run may read payloads that get into no batch.

Does not own: what a run does with its batches.
-/

namespace PromptRelay

open Text (Bytes)

namespace Agent

/-! ## Attempts that bring no batch -/

/-- After an attempt that brings no batch there is no other. It has failed, or the run
is cancelled while it lasts, or the run waits for it or has crashed by it. -/
theorem consumptions_eq_nil_after (agent : Agent σ) (count : Nat) (state : σ)
    {earlier later : List Entry} {outcome : Outcome MessengerError (List Message)}
    {isCancelled : Bool}
    (made : agent.entries count state = earlier ++ ⟨.consumeBatch outcome, isCancelled⟩ :: later)
    (without : ∀ batch, outcome ≠ .done batch) :
    consumptions (later.map Entry.call) = [] ∧
      ((∃ error, outcome = .failed error) ∨ outcome = .pending ∧ isCancelled = true ∨
        ∃ halt, outcome = .halted halt ∧ (agent.run count state).1 = .halted halt) := by
  obtain ⟨before, after, last, _, next, rest, closes⟩ :=
    agent.exists_next_of_entries count state made
  cases next with
  | consumeBatch _ _ =>
      cases outcome with
      | done batch => exact absurd rfl (without batch)
      | failed error =>
          obtain ⟨_, _, rfl, _⟩ := rest.terminates closes
          exact ⟨rfl, .inl ⟨error, rfl⟩⟩
      | halted halt =>
          -- Only an attempt that waits is put an end to.
          have standing (stands : agent.consumed (.halted halt) isCancelled = .standing halt) :
              later = [] ∧ (agent.run count state).1 = .halted halt := by
            rw [stands] at rest
            obtain ⟨rfl, rfl⟩ := rest.eq_nil_of_standing
            generalize (agent.run count state).1 = result at closes ⊢
            cases closes
            exact ⟨rfl, rfl⟩
          cases halt with
          | crashed crash =>
              obtain ⟨rfl, crashes⟩ := standing rfl
              exact ⟨rfl, .inr (.inr ⟨_, rfl, crashes⟩)⟩
          | waiting =>
              cases isCancelled with
              | true =>
                  obtain ⟨_, _, rfl, _⟩ := rest.terminates closes
                  exact ⟨rfl, .inr (.inl ⟨rfl, rfl⟩)⟩
              | false =>
                  obtain ⟨rfl, waits⟩ := standing rfl
                  exact ⟨rfl, .inr (.inr ⟨_, rfl, waits⟩)⟩

/-- The call of an attempt, among the calls of its run. -/
theorem exists_entry_of_consumptions {entries : List Entry}
    {earlier later : List (Outcome MessengerError (List Message))}
    {outcome : Outcome MessengerError (List Message)}
    (found : consumptions (entries.map Entry.call) = earlier ++ outcome :: later) :
    ∃ before isCancelled after,
      entries = before ++ ⟨.consumeBatch outcome, isCancelled⟩ :: after ∧
      consumptions (after.map Entry.call) = later := by
  obtain ⟨front, back, split, _, rest⟩ := List.filterMap_eq_append_iff.mp found
  obtain ⟨skipped, call, after, rfl, _, named, others⟩ := List.filterMap_eq_cons_iff.mp rest
  obtain rfl : call = .consumeBatch outcome := by
    cases call <;> simp at named
    rw [named]
  obtain ⟨before, more, rfl, rfl, mapped⟩ := List.map_eq_append_iff.mp split
  obtain ⟨between, last, rfl, rfl, called⟩ := List.map_eq_append_iff.mp mapped
  obtain ⟨⟨call, isCancelled⟩, final, rfl, rfl, rfl⟩ := List.map_eq_cons_iff.mp called
  exact ⟨before ++ between, isCancelled, final, by simp, others⟩

/-! ## Batches and payloads -/

/-- The batches that attempts have brought. -/
def batches (attempts : List Attempt) : List (List Message) :=
  attempts.filterMap Attempt.batch?

/-- The payloads that were delivered to attempts which have brought a batch. -/
def delivered (attempts : List Attempt) : List Bytes :=
  (attempts.filter fun attempt => attempt.batch?.isSome).flatMap fun attempt =>
    payloads attempt.reads

theorem decode_delivered (attempts : List Attempt)
    (each : ∀ attempt ∈ attempts, ∀ batch, attempt.batch? = some batch →
      (payloads attempt.reads).map (decode Message) = batch.map .ok) :
    (delivered attempts).map (decode Message) = (batches attempts).flatten.map .ok := by
  induction attempts with
  | nil => rfl
  | cons attempt attempts inductionHypothesis =>
      have onward := inductionHypothesis fun other member => each other (by simp [member])
      have first := each attempt (by simp)
      cases brought : attempt.batch? with
      | none =>
          rw [batches, List.filterMap_cons_none brought, delivered,
            List.filter_cons_of_neg (by simp [brought])]
          exact onward
      | some batch =>
          rw [batches, List.filterMap_cons_some brought, delivered,
            List.filter_cons_of_pos (by simp [brought]), List.flatMap_cons, List.map_append,
            List.flatten_cons, List.map_append, first batch brought]
          exact congrArg (batch.map .ok ++ ·) onward

/-- In a run over a byte transport, whatever this delivers and whenever the run is
cancelled: all reads are made by the attempts to consume, which are those among the
calls of the run. A batch is what the payloads of its attempt spell, so that all batches
one after the other are what the payloads spell that were delivered to them. An attempt
that brings no batch is the last; it has failed or was cancelled, unless the run still
waits for it or has crashed by it. If the source is disabled, or no messages are to be
waited for, all batches are empty and nothing is read. If there is no room for so many
messages as are to be waited for, the first attempt crashes, and nothing is read either. -/
theorem batches_eq_decode_delivered (agent : Agent σ) (backend : ByteMessenger σ)
    (topics : Topics) (sourceMinimum count : Nat) (state : σ) :
    let run := agent.overBytes backend topics sourceMinimum
    let ledger := agent.ledger backend topics sourceMinimum count state
    ledger.reads = [] ∧
    ledger.attempts.map Attempt.outcome = consumptions (run.calls count state) ∧
    (∀ attempt ∈ ledger.attempts, ∀ batch, attempt.batch? = some batch →
      (payloads attempt.reads).map (decode Message) = batch.map .ok) ∧
    (delivered ledger.attempts).map (decode Message) =
      (batches ledger.attempts).flatten.map .ok ∧
    (∀ earlier attempt later, ledger.attempts = earlier ++ attempt :: later →
      attempt.batch? = none →
      later = [] ∧
        ((∃ error, attempt.outcome = .failed error) ∨
          ⟨.consumeBatch .pending, true⟩ ∈ run.entries count state ∨
          ∃ halt, attempt.outcome = .halted halt ∧ (run.run count state).1 = .halted halt)) ∧
    (IsIdle topics sourceMinimum →
      ∀ attempt ∈ ledger.attempts, attempt.reads = [] ∧
        (HasRoom sourceMinimum → attempt.outcome = .done [])) ∧
    (¬ HasRoom sourceMinimum →
      ∀ attempt ∈ ledger.attempts, attempt.reads = [] ∧
        attempt.outcome = .crashed .capacity) := by
  intro run ledger
  have balanced : Balanced topics sourceMinimum (run.entries count state) ledger :=
    agent.balanced_ledger backend topics sourceMinimum count state
  have each : ∀ attempt ∈ ledger.attempts, ∀ batch, attempt.batch? = some batch →
      (payloads attempt.reads).map (decode Message) = batch.map .ok := by
    intro attempt member batch brought
    have accounts := balanced.accounts attempt member
    rcases attempt with ⟨reads, outcome⟩
    cases outcome <;> cases brought
    exact accounts.decode_payloads
  refine ⟨balanced.reads, balanced.attempts, each, decode_delivered _ each, ?_, ?_, ?_⟩
  · intro earlier attempt later made without
    have found := balanced.attempts
    rw [made, List.map_append, List.map_cons] at found
    obtain ⟨before, isCancelled, after, calls, rest⟩ := exists_entry_of_consumptions found.symm
    have noBatch : ∀ batch, attempt.outcome ≠ .done batch := by
      intro batch brought
      simp [Attempt.batch?, brought] at without
    obtain ⟨none, reason⟩ := run.consumptions_eq_nil_after count state calls noBatch
    refine ⟨List.map_eq_nil_iff.mp (rest.symm.trans none), ?_⟩
    rcases reason with failed | ⟨pending, rfl⟩ | halts
    · exact .inl failed
    · right; left
      rw [calls, pending]
      simp
    · exact .inr (.inr halts)
  · intro idle attempt member
    have accounts := balanced.accounts attempt member
    by_cases room : HasRoom sourceMinimum
    · exact ⟨(accounts.idle room idle).1, fun _ => (accounts.idle room idle).2⟩
    · exact ⟨(accounts.crowded room).1, (absurd · room)⟩
  · intro crowded attempt member
    exact (balanced.accounts attempt member).crowded crowded

def questions : Topics := { sources := ["questions"] }

def payloadOf (content : String) : Bytes :=
  ByteMessenger.payloadOf (.user content)

/-- Two messages, the end of a batch, a third message, and a payload that is none. -/
def fourPayloads : Rehearsal.Stage where
  payloads := [
    { outcome := .done (some (payloadOf "first")) },
    { outcome := .done (some (payloadOf "second")) },
    { outcome := .done none },
    { outcome := .done (some (payloadOf "third")) },
    { outcome := .done (some []) }]

/-- The attempt that fails by the last payload. -/
def failedAttempt : Attempt where
  reads := [.done (some (payloadOf "third")), .done (some [])]
  outcome := .failed (.wire ⟨.truncated⟩)

theorem attempts_fourPayloads :
    (idleAgent.ledger Rehearsal.byteMessenger questions 2 9 fourPayloads).attempts =
      [⟨[.done (some (payloadOf "first")), .done (some (payloadOf "second"))],
          .done [.user "first", .user "second"]⟩,
        ⟨[.done none], .done []⟩] ++ failedAttempt :: [] := by decide +kernel

/-- The third message gets into no batch, since the attempt that reads it fails, and no
other attempt follows. Without a source nothing is read. -/
theorem batches_fourPayloads :
    (delivered (idleAgent.ledger Rehearsal.byteMessenger questions 2 9 fourPayloads).attempts).map
        (decode Message) = [.ok (.user "first"), .ok (.user "second")] ∧
      (∀ earlier later,
        (idleAgent.ledger Rehearsal.byteMessenger questions 2 9 fourPayloads).attempts =
          earlier ++ failedAttempt :: later → later = []) ∧
      ∀ attempt ∈ (idleAgent.ledger Rehearsal.byteMessenger {} 2 9 fourPayloads).attempts,
        attempt.reads = [] ∧ attempt.outcome = .done [] := by
  obtain ⟨_, _, _, spelled, unsuccessful, _⟩ :=
    batches_eq_decode_delivered idleAgent Rehearsal.byteMessenger questions 2 9 fourPayloads
  obtain ⟨_, _, _, _, _, idle, _⟩ :=
    batches_eq_decode_delivered idleAgent Rehearsal.byteMessenger {} 2 9 fourPayloads
  have nothing (attempt) (member) :=
    And.imp_right (· (show HasRoom 2 by decide)) (idle (.inl rfl) attempt member)
  refine ⟨?_, fun earlier later made => (unsuccessful _ _ _ made rfl).1, nothing⟩
  rw [attempts_fourPayloads] at spelled ⊢
  exact spelled

end Agent

end PromptRelay
