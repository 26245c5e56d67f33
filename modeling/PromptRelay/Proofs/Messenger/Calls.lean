import PromptRelay.Proofs.Agent.Ledger
import PromptRelay.Proofs.Messenger.Operation
import PromptRelay.Rehearsal

/-!
Contract: the calls of a byte transport that the operations of a messenger over it make.

Owns:
- the log of the calls that have reached a byte transport;
- which calls each operation makes, and that what they come to decides its answer;
- transports that go the same way without any error;
- that an operation returns the error that it meets, and that the others answer as if there
  had been none.

Does not own: what calls come to.

The log stands beside the state of the byte transport. The transport that keeps it answers as
the one that does not, so that what is found about logged calls holds of the answers of the
other.
-/

namespace PromptRelay

open Text (Bytes)

/-! ## Logs -/

/-- A call that has reached a byte transport, and what it has come to. -/
inductive Exchange where
  | consume (read : Read)
  | produce (payload : Bytes) (outcome : Outcome MessengerError Unit)
  | flush (outcome : Outcome MessengerError Unit)
  | terminate (outcome : Outcome MessengerError Unit)
deriving DecidableEq, Repr

/-- The error of an outcome. -/
def Outcome.error? : Outcome ε α → Option ε
  | .failed error => some error
  | _ => none

/-- The error that a call has come to. -/
def Exchange.error? : Exchange → Option MessengerError
  | .consume read => read.error?
  | .produce _ outcome | .flush outcome | .terminate outcome => outcome.error?

/-- A state, and the calls that have led to it. -/
structure Log (σ : Type) where
  state : σ
  calls : List Exchange := []

/-- Makes a call and logs it. -/
def Log.perform (exchange : Outcome MessengerError α → Exchange) (call : Transport σ α) :
    Transport (Log σ) α := fun log =>
  let (outcome, state) := call log.state
  (outcome, { state, calls := log.calls ++ [exchange outcome] })

/-- The byte transport that also logs its calls. -/
def ByteMessenger.logged (backend : ByteMessenger σ) : ByteMessenger (Log σ) where
  consume := Log.perform .consume backend.consume
  produce payload := Log.perform (.produce payload) (backend.produce payload)
  flush := Log.perform .flush backend.flush
  terminate := Log.perform .terminate backend.terminate

/-- Two byte transports answer alike, as long as their states are related. -/
structure ByteMessenger.Similar (related : σ → τ → Prop) (left : ByteMessenger σ)
    (right : ByteMessenger τ) : Prop where
  consume : Action.Similar related left.consume right.consume
  produce : ∀ payload, Action.Similar related (left.produce payload) (right.produce payload)
  flush : Action.Similar related left.flush right.flush
  terminate : Action.Similar related left.terminate right.terminate

theorem perform_similar {related : σ → τ → Prop} {left : ByteMessenger σ}
    {right : ByteMessenger τ} (similar : left.Similar related right) (topics : Topics)
    (count : Nat) (operation : Operation) :
    Action.Similar related ((left.toMessenger topics count).perform operation)
      ((right.toMessenger topics count).perform operation) := by
  have consume := ByteMessenger.nextMessage_similar similar.consume topics
  cases operation with
  | consume => exact .bind consume fun _ => .pure _
  | consumeBatch => exact .bind (collect_similar consume count) fun _ => .pure _
  | produce message =>
      refine .bind ?_ fun _ => .pure _
      unfold ByteMessenger.toMessenger
      dsimp only
      split
      · exact similar.produce _
      · exact .pure ()
  | flush => exact .bind similar.flush fun _ => .pure _
  | terminate => exact .bind similar.terminate fun _ => .pure _

/-- Logging makes no difference to the answers. -/
theorem logged_similar (backend : ByteMessenger σ) :
    backend.logged.Similar (fun log state => log.state = state) backend where
  consume := by rintro log _ rfl; exact ⟨rfl, rfl⟩
  produce _ := by rintro log _ rfl; exact ⟨rfl, rfl⟩
  flush := by rintro log _ rfl; exact ⟨rfl, rfl⟩
  terminate := by rintro log _ rfl; exact ⟨rfl, rfl⟩

/-- Messengers over transports that answer alike give the same answers to operations. -/
theorem answers_similar {related : σ → τ → Prop} {left : ByteMessenger σ}
    {right : ByteMessenger τ} (similar : left.Similar related right) (topics : Topics)
    (count : Nat) (operations : List Operation) (leftState : σ) (rightState : τ)
    (states : related leftState rightState) :
    let leftMessenger := left.toMessenger topics count
    let rightMessenger := right.toMessenger topics count
    leftMessenger.answers operations leftState = rightMessenger.answers operations rightState ∧
      related (leftMessenger.after operations leftState)
        (rightMessenger.after operations rightState) := by
  intro leftMessenger rightMessenger
  induction operations generalizing leftState rightState with
  | nil => exact ⟨rfl, states⟩
  | cons operation operations inductionHypothesis =>
      obtain ⟨same, onward⟩ := perform_similar similar topics count operation _ _ states
      obtain ⟨sameLater, last⟩ := inductionHypothesis _ _ onward
      exact ⟨by rw [Messenger.answers, Messenger.answers, same, sameLater], last⟩

/-! ## Calls of operations -/

/-- What an operation answers if all that it asks for comes to this. -/
def Outcome.answering (answer : α → Operation.Answer) :
    Outcome MessengerError α → Outcome MessengerError Operation.Answer
  | .done value => .done (answer value)
  | .failed error => .failed error
  | .halted halt => .halted halt

/-- The calls that an operation makes, what they come to, and what the operation answers. -/
inductive Asks (topics : Topics) (count : Nat) :
    Operation → List Exchange → Outcome MessengerError Operation.Answer → Prop where
  | consume (enabled : topics.hasSource = true) (read : Read) :
      Asks topics count .consume [.consume read] ((messageOf read).answering .message)
  | consumeNothing (disabled : topics.hasSource = false) :
      Asks topics count .consume [] (.done (.message none))
  | consumeBatch {reads : List Read} {outcome : Outcome MessengerError (List Message)}
      (accounts : Accounts topics count reads outcome) :
      Asks topics count .consumeBatch (reads.map .consume) (outcome.answering .batch)
  | produce (enabled : topics.hasSink = true) (message : Message)
      (outcome : Outcome MessengerError Unit) :
      Asks topics count (.produce message)
        [.produce (Text.bytes (encode message)) outcome] (outcome.answering fun _ => .nothing)
  | produceNothing (disabled : topics.hasSink = false) (message : Message) :
      Asks topics count (.produce message) [] (.done .nothing)
  | flush (outcome : Outcome MessengerError Unit) :
      Asks topics count .flush [.flush outcome] (outcome.answering fun _ => .nothing)
  | terminate (outcome : Outcome MessengerError Unit) :
      Asks topics count .terminate [.terminate outcome] (outcome.answering fun _ => .nothing)

theorem bind_answer (action : Transport σ α) (answer : α → Operation.Answer) (state : σ) :
    (action >>= fun value => pure (answer value)) state =
      ((action state).1.answering answer, (action state).2) := by
  rw [Action.bind_apply]
  rcases action state with ⟨outcome, after⟩
  cases outcome <;> rfl

theorem Reading.logged {backend : ByteMessenger σ} {log after : Log σ} {reads : List Read}
    (reading : Reading backend.logged log reads after) :
    after.calls = log.calls ++ reads.map .consume := by
  induction reading with
  | nothing => simp
  | @read log after reads onward inductionHypothesis =>
      rw [inductionHypothesis]
      simp [ByteMessenger.logged, Log.perform]

/-- One operation adds the calls that it makes to the log, and nothing else. -/
theorem perform_asks (backend : ByteMessenger σ) (topics : Topics) (count : Nat)
    (operation : Operation) (log : Log σ) :
    let messenger := backend.logged.toMessenger topics count
    ∃ calls, (messenger.perform operation log).2.calls = log.calls ++ calls ∧
      Asks topics count operation calls (messenger.perform operation log).1 := by
  intro messenger
  cases operation with
  | consume =>
      rw [Messenger.perform, bind_answer]
      change ∃ calls, (backend.logged.nextMessage topics log).2.calls = log.calls ++ calls ∧
        Asks topics count .consume calls
          ((backend.logged.nextMessage topics log).1.answering .message)
      cases enabled : topics.hasSource with
      | true =>
          rw [nextMessage_apply enabled]
          exact ⟨_, rfl, .consume enabled _⟩
      | false =>
          have nothing : backend.logged.nextMessage topics = pure none := by
            simp [ByteMessenger.nextMessage, ByteMessenger.toMessenger, enabled]
          rw [nothing]
          exact ⟨[], (List.append_nil _).symm, .consumeNothing enabled⟩
  | consumeBatch =>
      obtain ⟨reads, reading, accounts⟩ := collect_reading backend.logged topics count log
      rw [Messenger.perform, bind_answer]
      exact ⟨_, reading.logged, .consumeBatch accounts⟩
  | produce message =>
      rw [Messenger.perform, bind_answer]
      cases enabled : topics.hasSink with
      | true =>
          have written : messenger.produce message =
              backend.logged.produce (ByteMessenger.payloadOf message) := if_pos enabled
          rw [written]
          exact ⟨_, rfl, .produce enabled message _⟩
      | false =>
          have nothing : messenger.produce message = pure () := if_neg (by simp [enabled])
          rw [nothing]
          exact ⟨[], (List.append_nil _).symm, .produceNothing enabled message⟩
  | flush =>
      rw [Messenger.perform, bind_answer]
      exact ⟨_, rfl, .flush _⟩
  | terminate =>
      rw [Messenger.perform, bind_answer]
      exact ⟨_, rfl, .terminate _⟩

theorem Gathers.unique {reads : List Read} {outcome other : Outcome MessengerError (List Message)}
    (gathers : Gathers reads outcome) (again : Gathers reads other) : other = outcome := by
  induction gathers generalizing other with
  | enough => cases again; rfl
  | ended => cases again; rfl
  | failed error => cases again; rfl
  | halted halt => cases again; rfl
  | malformed refused =>
      cases again with
      | malformed refusedAgain =>
          rw [refused] at refusedAgain
          cases refusedAgain
          rfl
      | message spelled _ =>
          rw [refused] at spelled
          cases spelled
  | message spelled rest inductionHypothesis =>
      cases again with
      | malformed refused =>
          rw [spelled] at refused
          cases refused
      | message spelledAgain restAgain =>
          rw [spelled] at spelledAgain
          cases spelledAgain
          rw [inductionHypothesis restAgain]

theorem Accounts.unique {topics : Topics} {count : Nat} {reads : List Read}
    {outcome other : Outcome MessengerError (List Message)}
    (accounts : Accounts topics count reads outcome)
    (again : Accounts topics count reads other) : other = outcome := by
  by_cases room : HasRoom count
  · exact (accounts.gathers room).unique (again.gathers room)
  · rw [(accounts.crowded room).2, (again.crowded room).2]

/-- What the calls of an operation come to decides what it answers. -/
theorem Asks.unique {topics : Topics} {count : Nat} {operation : Operation}
    {calls : List Exchange} {outcome other : Outcome MessengerError Operation.Answer}
    (asks : Asks topics count operation calls outcome)
    (again : Asks topics count operation calls other) : other = outcome := by
  cases asks with
  | consumeBatch accounts =>
      generalize sameCalls : List.map Exchange.consume _ = calls at again
      cases again with
      | consumeBatch accountsAgain =>
          obtain rfl := (List.map_inj_right fun _ _ => Exchange.consume.inj).mp sameCalls
          rw [accounts.unique accountsAgain]
  | consume enabled read => cases again; rfl
  | consumeNothing disabled => cases again; rfl
  | produce enabled message outcome => cases again; rfl
  | produceNothing disabled message => cases again; rfl
  | flush outcome => cases again; rfl
  | terminate outcome => cases again; rfl

/-- A read that fails is the last one of an attempt, which fails with the same error. -/
theorem Gathers.failed_of_mem {reads : List Read}
    {outcome : Outcome MessengerError (List Message)} (gathers : Gathers reads outcome)
    {error : MessengerError} (met : .failed error ∈ reads) : outcome = .failed error := by
  induction gathers with
  | enough => cases met
  | ended => simp at met
  | failed other =>
      rw [List.mem_singleton] at met
      cases met
      rfl
  | halted halt => simp at met
  | malformed refused => simp at met
  | message spelled rest inductionHypothesis =>
      rcases List.mem_cons.mp met with here | later
      · cases here
      · rw [inductionHypothesis later]
        rfl

theorem Accounts.hasSource_of_ne_nil {topics : Topics} {count : Nat} {reads : List Read}
    {outcome : Outcome MessengerError (List Message)}
    (accounts : Accounts topics count reads outcome) (met : reads ≠ []) :
    topics.hasSource = true := by
  cases enabled : topics.hasSource with
  | true => rfl
  | false =>
      by_cases room : HasRoom count
      · exact absurd (accounts.idle room (.inl enabled)).1 met
      · exact absurd (accounts.crowded room).1 met

theorem Accounts.failed_of_mem {topics : Topics} {count : Nat} {reads : List Read}
    {outcome : Outcome MessengerError (List Message)}
    (accounts : Accounts topics count reads outcome) {error : MessengerError}
    (met : .failed error ∈ reads) : outcome = .failed error := by
  by_cases room : HasRoom count
  · exact (accounts.gathers room).failed_of_mem met
  · rw [(accounts.crowded room).1] at met
    cases met

/-- Only a side that has topics is called. -/
theorem Asks.enabled {topics : Topics} {count : Nat} {operation : Operation}
    {calls : List Exchange} {outcome : Outcome MessengerError Operation.Answer}
    (asks : Asks topics count operation calls outcome) :
    (∀ read, .consume read ∈ calls → topics.hasSource = true) ∧
      ∀ payload written, .produce payload written ∈ calls → topics.hasSink = true := by
  cases asks with
  | consume enabled read => exact ⟨fun _ _ => enabled, by simp⟩
  | consumeNothing disabled => simp
  | consumeBatch accounts =>
      refine ⟨fun read called => ?_, by simp⟩
      obtain ⟨_, member, _⟩ := List.mem_map.mp called
      exact accounts.hasSource_of_ne_nil (List.ne_nil_of_mem member)
  | produce enabled message written => exact ⟨by simp, fun _ _ _ => enabled⟩
  | produceNothing disabled message => simp
  | flush written => simp
  | terminate written => simp

theorem Outcome.eq_failed_of_error? {outcome : Outcome ε α} {error : ε}
    (met : outcome.error? = some error) : outcome = .failed error := by
  cases outcome <;> cases met
  rfl

theorem Outcome.answering_of_error? {outcome : Outcome MessengerError α}
    {error : MessengerError} (met : outcome.error? = some error)
    (answer : α → Operation.Answer) : outcome.answering answer = .failed error := by
  rw [eq_failed_of_error? met]
  rfl

/-- An operation returns the error that it meets. -/
theorem Asks.failed_of_error? {topics : Topics} {count : Nat} {operation : Operation}
    {calls : List Exchange} {outcome : Outcome MessengerError Operation.Answer}
    (asks : Asks topics count operation calls outcome) {call : Exchange} (made : call ∈ calls)
    {error : MessengerError} (met : call.error? = some error) : outcome = .failed error := by
  cases asks with
  | consume enabled read =>
      rw [List.mem_singleton.mp made] at met
      have failed : read = .failed error := Outcome.eq_failed_of_error? met
      rw [failed]
      rfl
  | consumeNothing disabled => cases made
  | consumeBatch accounts =>
      obtain ⟨read, member, rfl⟩ := List.mem_map.mp made
      have failed : read = .failed error := Outcome.eq_failed_of_error? met
      rw [accounts.failed_of_mem (failed ▸ member)]
      rfl
  | produce enabled message written =>
      rw [List.mem_singleton.mp made] at met
      exact Outcome.answering_of_error? met _
  | produceNothing disabled message => cases made
  | flush flushed =>
      rw [List.mem_singleton.mp made] at met
      exact Outcome.answering_of_error? met _
  | terminate terminated =>
      rw [List.mem_singleton.mp made] at met
      exact Outcome.answering_of_error? met _

/-! ## Transports without errors -/

/-- The outcome with a value in place of an error. -/
def Outcome.calm (instead : α) : Outcome ε α → Outcome ε α
  | .failed _ => .done instead
  | outcome => outcome

/-- The call with the end of a batch, or success, in place of an error. -/
def Exchange.calm : Exchange → Exchange
  | .consume read => .consume (read.calm none)
  | .produce payload outcome => .produce payload (outcome.calm ())
  | .flush outcome => .flush (outcome.calm ())
  | .terminate outcome => .terminate (outcome.calm ())

theorem Exchange.calm_of_error? {call : Exchange} (met : call.error? = none) :
    call.calm = call := by
  have same {α : Type} {outcome : Outcome MessengerError α} (instead : α)
      (met : outcome.error? = none) : outcome.calm instead = outcome := by
    cases outcome <;> first | rfl | cases met
  cases call with
  | consume read => exact congrArg _ (same none met)
  | produce payload outcome => exact congrArg _ (same () met)
  | flush outcome => exact congrArg _ (same () met)
  | terminate outcome => exact congrArg _ (same () met)

/-- The same change of the state, with a value in place of an error. -/
def Action.calm (instead : α) (action : Action ε σ α) : Action ε σ α := fun state =>
  let (outcome, after) := action state
  (outcome.calm instead, after)

/-- The byte transport that goes the same way and has the end of a batch, or success, wherever
the other has an error. -/
def ByteMessenger.calm (backend : ByteMessenger σ) : ByteMessenger σ where
  consume := backend.consume.calm none
  produce payload := (backend.produce payload).calm ()
  flush := backend.flush.calm ()
  terminate := backend.terminate.calm ()

/-- Two logs of the same way, with the errors of the first taken out of the second. -/
structure Log.Calmed (log other : Log σ) : Prop where
  state : other.state = log.state
  calls : other.calls = log.calls.map Exchange.calm

section

variable (backend : ByteMessenger σ) (topics : Topics) {log other : Log σ}

/-- A call that is made of both transports leads both the same way. -/
theorem Log.Calmed.perform (calmed : log.Calmed other) (call : Transport σ α) {instead : α}
    {exchange : Outcome MessengerError α → Exchange}
    (named : ∀ outcome, exchange (outcome.calm instead) = (exchange outcome).calm) :
    (Log.perform exchange (call.calm instead) other).1 =
        (Log.perform exchange call log).1.calm instead ∧
      (Log.perform exchange call log).2.Calmed
        (Log.perform exchange (call.calm instead) other).2 := by
  simp only [Log.perform, Action.calm, calmed.state]
  refine ⟨trivial, rfl, ?_⟩
  change other.calls ++ _ = (log.calls ++ _).map Exchange.calm
  rw [calmed.calls, List.map_append, List.map_singleton, named]

theorem Log.Calmed.consume (calmed : log.Calmed other) :
    (backend.calm.logged.consume other).1 = (backend.logged.consume log).1.calm none ∧
      (backend.logged.consume log).2.Calmed (backend.calm.logged.consume other).2 :=
  calmed.perform backend.consume fun _ => rfl

/-- The end of a batch ends an attempt like an error does, and the payloads before are the
same. By induction on how many messages are still wanted. -/
theorem Log.Calmed.gather (calmed : log.Calmed other) (count : Nat) :
    (PromptRelay.gather (backend.logged.nextMessage topics) count log).2.Calmed
      (PromptRelay.gather (backend.calm.logged.nextMessage topics) count other).2 := by
  cases enabled : topics.hasSource with
  | false =>
      rw [gather_of_disabled enabled, gather_of_disabled enabled]
      exact calmed
  | true =>
      induction count generalizing log other with
      | zero => exact calmed
      | succ count inductionHypothesis =>
          obtain ⟨answered, onward⟩ := calmed.consume backend
          rw [gather_succ_apply enabled, gather_succ_apply enabled, answered]
          cases (backend.logged.consume log).1 with
          | done payload =>
              cases payload with
              | none => exact onward
              | some payload =>
                  simp only [Outcome.calm, messageOf]
                  cases decode Message payload with
                  | error error => exact onward
                  | ok message => exact inductionHypothesis onward
          | failed error => exact onward
          | halted halt => exact onward

theorem Log.Calmed.collect (calmed : log.Calmed other) (count : Nat) :
    (PromptRelay.collect (backend.logged.nextMessage topics) count log).2.Calmed
      (PromptRelay.collect (backend.calm.logged.nextMessage topics) count other).2 := by
  unfold PromptRelay.collect
  split
  · exact calmed.gather backend topics count
  · exact calmed

/-- One operation leads both transports the same way. -/
theorem Log.Calmed.operation (calmed : log.Calmed other) (count : Nat) (operation : Operation) :
    ((backend.logged.toMessenger topics count).perform operation log).2.Calmed
      ((backend.calm.logged.toMessenger topics count).perform operation other).2 := by
  cases operation with
  | consume =>
      rw [Messenger.perform, Messenger.perform, bind_answer, bind_answer]
      change (backend.logged.nextMessage topics log).2.Calmed
        (backend.calm.logged.nextMessage topics other).2
      cases enabled : topics.hasSource with
      | true =>
          rw [nextMessage_apply enabled, nextMessage_apply enabled]
          exact (calmed.consume backend).2
      | false =>
          simp only [ByteMessenger.nextMessage, ByteMessenger.toMessenger, enabled]
          exact calmed
  | consumeBatch =>
      rw [Messenger.perform, Messenger.perform, bind_answer, bind_answer]
      exact calmed.collect backend topics count
  | produce message =>
      rw [Messenger.perform, Messenger.perform, bind_answer, bind_answer]
      unfold ByteMessenger.toMessenger
      dsimp only
      split
      · exact (calmed.perform (backend.produce _) fun _ => rfl).2
      · exact calmed
  | flush =>
      rw [Messenger.perform, Messenger.perform, bind_answer, bind_answer]
      exact (calmed.perform backend.flush fun _ => rfl).2
  | terminate =>
      rw [Messenger.perform, Messenger.perform, bind_answer, bind_answer]
      exact (calmed.perform backend.terminate fun _ => rfl).2

end

/-! ## Runs -/

/-- What an operation has to do with the calls that it makes of a byte transport. -/
structure Relays (topics : Topics) (count : Nat) (operation : Operation) (calls : List Exchange)
    (answer : Outcome MessengerError Operation.Answer) : Prop where
  asks : Asks topics count operation calls answer
  source : ∀ read, .consume read ∈ calls → topics.sources ≠ []
  sink : ∀ payload outcome, .produce payload outcome ∈ calls → topics.sinks ≠ []
  /-- An error is returned as it is. -/
  error : ∀ call ∈ calls, ∀ error, call.error? = some error → answer = .failed error

theorem Asks.relays {topics : Topics} {count : Nat} {operation : Operation}
    {calls : List Exchange} {answer : Outcome MessengerError Operation.Answer}
    (asks : Asks topics count operation calls answer) :
    Relays topics count operation calls answer where
  asks
  source read called := by
    have enabled := asks.enabled.1 read called
    rintro none
    rw [Topics.hasSource, none] at enabled
    cases enabled
  sink payload outcome called := by
    have enabled := asks.enabled.2 payload outcome called
    rintro none
    rw [Topics.hasSink, none] at enabled
    cases enabled
  error call made error met := asks.failed_of_error? made met

/-- Operations one after the other, the calls that each of them makes, and what it answers,
also to the same calls without errors. -/
inductive Course (topics : Topics) (count : Nat) :
    List Operation → List (List Exchange) → List (Outcome MessengerError Operation.Answer) →
      List (Outcome MessengerError Operation.Answer) → Prop where
  | nothing : Course topics count [] [] [] []
  | operation {operation : Operation} {operations : List Operation} {calls : List Exchange}
      {steps : List (List Exchange)} {answer calm : Outcome MessengerError Operation.Answer}
      {answers calmAnswers : List (Outcome MessengerError Operation.Answer)}
      (relays : Relays topics count operation calls answer)
      -- An operation that meets no error answers as if there had never been any.
      (undisturbed : (∀ call ∈ calls, call.error? = none) → calm = answer)
      (onward : Course topics count operations steps answers calmAnswers) :
      Course topics count (operation :: operations) (calls :: steps) (answer :: answers)
        (calm :: calmAnswers)

section

variable (backend : ByteMessenger σ) (topics : Topics) (count : Nat)

/-- Errors make no difference to the state that an operation leaves, and the calls of an
operation that meets none are the same as without any. -/
theorem perform_calm (operation : Operation) (log : Log σ) :
    let messenger := backend.toMessenger topics count
    let calmMessenger := backend.calm.toMessenger topics count
    let logging := backend.logged.toMessenger topics count
    (calmMessenger.perform operation log.state).2 = (messenger.perform operation log.state).2 ∧
      ∃ calls, (logging.perform operation log).2.calls = log.calls ++ calls ∧
        Relays topics count operation calls (messenger.perform operation log.state).1 ∧
        ((∀ call ∈ calls, call.error? = none) →
          (calmMessenger.perform operation log.state).1 =
            (messenger.perform operation log.state).1) := by
  intro messenger calmMessenger logging
  let other : Log σ := { state := log.state, calls := log.calls.map Exchange.calm }
  have calmed : log.Calmed other := ⟨rfl, rfl⟩
  have onward := calmed.operation backend topics count operation
  obtain ⟨same, sameState⟩ :=
    perform_similar (logged_similar backend) topics count operation log _ rfl
  obtain ⟨sameCalm, sameCalmState⟩ :=
    perform_similar (logged_similar backend.calm) topics count operation other _ rfl
  obtain ⟨calls, added, asks⟩ := perform_asks backend topics count operation log
  obtain ⟨calmCalls, calmAdded, calmAsks⟩ := perform_asks backend.calm topics count operation other
  rw [same] at asks
  rw [sameCalm] at calmAsks
  refine ⟨?_, calls, added, asks.relays, fun errorless => ?_⟩
  · calc
      (calmMessenger.perform operation log.state).2 = _ := sameCalmState.symm
      _ = _ := onward.state
      _ = (messenger.perform operation log.state).2 := sameState
  · have sameCalls : calmCalls = calls := by
      have both := onward.calls
      rw [added, calmAdded, List.map_append] at both
      calc
        calmCalls = calls.map Exchange.calm := List.append_cancel_left both
        _ = calls.map id :=
          List.map_congr_left fun call made => Exchange.calm_of_error? (errorless call made)
        _ = calls := List.map_id calls
    exact asks.unique (sameCalls ▸ calmAsks)

/-- By induction on the operations, from a log of whatever calls there have been before. -/
theorem after_course (operations : List Operation) (log : Log σ) :
    let messenger := backend.toMessenger topics count
    let calmMessenger := backend.calm.toMessenger topics count
    let logging := backend.logged.toMessenger topics count
    calmMessenger.after operations log.state = messenger.after operations log.state ∧
      ∃ steps, (logging.after operations log).calls = log.calls ++ steps.flatten ∧
        Course topics count operations steps (messenger.answers operations log.state)
          (calmMessenger.answers operations log.state) := by
  intro messenger calmMessenger logging
  induction operations generalizing log with
  | nil => exact ⟨rfl, [], (List.append_nil _).symm, .nothing⟩
  | cons operation operations inductionHypothesis =>
      obtain ⟨sameCalm, calls, added, relays, undisturbed⟩ :=
        perform_calm backend topics count operation log
      obtain ⟨_, logged⟩ :=
        perform_similar (logged_similar backend) topics count operation log _ rfl
      obtain ⟨last, steps, addedLater, course⟩ :=
        inductionHypothesis (logging.perform operation log).2
      rw [logged] at last course
      refine ⟨?_, calls :: steps, ?_, .operation relays undisturbed ?_⟩
      · change calmMessenger.after operations (calmMessenger.perform operation log.state).2 = _
        rw [sameCalm]
        exact last
      · change (logging.after operations (logging.perform operation log).2).calls = _
        rw [addedLater, added, List.append_assoc, List.flatten_cons]
      · rw [sameCalm]
        exact course

/-- What a messenger over a byte transport asks for, whatever it is asked to do: only a side
that has topics is called; a message is written by one call with the bytes of its encoding,
if there are sinks; and flushes and terminations are passed on one by one. An operation that
meets an error returns it. The others answer, and leave the transport, as if there had been
no error. -/
theorem operations_course (operations : List Operation) (state : σ) :
    let messenger := backend.toMessenger topics count
    let calmMessenger := backend.calm.toMessenger topics count
    let logging := backend.logged.toMessenger topics count
    let log := logging.after operations { state }
    logging.answers operations { state } = messenger.answers operations state ∧
      log.state = messenger.after operations state ∧
      calmMessenger.after operations state = messenger.after operations state ∧
      ∃ steps, log.calls = steps.flatten ∧
        Course topics count operations steps (messenger.answers operations state)
          (calmMessenger.answers operations state) := by
  intro messenger calmMessenger logging log
  obtain ⟨sameAnswers, sameState⟩ :=
    answers_similar (logged_similar backend) topics count operations { state } state rfl
  obtain ⟨sameCalmState, steps, called, course⟩ :=
    after_course backend topics count operations { state }
  exact ⟨sameAnswers, sameState, sameCalmState, steps, called, course⟩

end

/-- A flush that fails is no reason not to flush again, and a side without topics is left
alone. -/
example (message : Message) :
    let messenger := Rehearsal.byteMessenger.logged.toMessenger { sinks := ["replies"] } 1
    let lost : MessengerError := .flush "lost"
    (messenger.after [.consumeBatch, .produce message, .flush, .flush]
        { state := { flushes := [{ outcome := .failed lost }] } }).calls =
      [.produce (ByteMessenger.payloadOf message) (.done ()), .flush (.failed lost),
        .flush (.done ())] := rfl

end PromptRelay
