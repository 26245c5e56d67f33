import PromptRelay.Messenger.Kafka.Backend

/-!
Contract: what a flush that fails has delivered, and what it drops.

Owns:
- steps that leave a part of their state as it is;
- deliveries one after the other, and where the first of them fails;
- that a flush which fails has delivered the topics before the failing one, and that
  nothing of the others waits any more, so that a termination has nothing left to report.

Does not own: what waits before a flush.

The payloads that wait are taken out before the first delivery, and no delivery puts any
back: this is the invariant from which the state after a flush is read off, wherever it
ends.
-/

namespace PromptRelay

/-! ## Parts that steps leave alone -/

namespace Action

/-- Whatever the step comes to, the part of the state is the same afterwards. -/
def Keeps (part : σ → β) (action : Action ε σ α) : Prop :=
  ∀ state, part (action state).2 = part state

namespace Keeps

variable {part : σ → β}

theorem pure (value : α) : (pure value : Action ε σ α).Keeps part := fun _ => rfl

theorem fail (error : ε) : (fail error : Action ε σ α).Keeps part := fun _ => rfl

theorem read : (read : Action ε σ σ).Keeps part := fun _ => rfl

theorem change {f : σ → σ} (kept : ∀ state, part (f state) = part state) :
    (change f : Action ε σ Unit).Keeps part := kept

/-- What follows may rely on the value of the first step. -/
theorem bind {first : Action ε σ α} {next : α → Action ε σ γ} (firstKeeps : first.Keeps part)
    (nextKeeps : ∀ value, (next value).Keeps part) : (first >>= next).Keeps part := by
  intro state
  have kept := firstKeeps state
  rw [bind_apply]
  cases stepped : first state with
  | mk outcome between =>
      rw [stepped] at kept
      cases outcome with
      | done value => exact (nextKeeps value between).trans kept
      | failed error => exact kept
      | halted => exact kept

/-- What follows starts in the state that has been read. -/
theorem read_bind {next : σ → Action ε σ α}
    (nextKeeps : ∀ state, part (next state state).2 = part state) :
    (Action.read >>= next).Keeps part := nextKeeps

theorem mapError {f : ε → ε'} {action : Action ε σ α} (keeps : action.Keeps part) :
    (action.mapError f).Keeps part := keeps

end Keeps

end Action

namespace Kafka

open PromptRelay.Action (Keeps)
open Text (Bytes)

section

variable {σ : Type}

/-- The payloads that wait in a session. -/
def Session.waiting (session : Session σ) : List (String × List Bytes) :=
  session.backend.pendingWrites

/-- The session when its payloads have been taken out. -/
def Session.emptied (session : Session σ) : Session σ :=
  { session with backend := { session.backend with pendingWrites := [] } }

/-- All of the backend that deliveries leave alone: neither counters nor writers. -/
def Session.settled (session : Session σ) : Backend :=
  { session.backend with counters := [], writers := [] }

/-! ## One delivery -/

theorem withBroker_keeps (action : Action ε σ α) :
    (Session.withBroker action).Keeps (Session.settled (σ := σ)) := fun _ => rfl

/-- A choice of a partition touches nothing but the counters. -/
theorem exists_counters_of_nextPartition (topic : String) (backend : Backend) :
    ∃ counters, (nextPartition topic backend).2 = { backend with counters } := by
  unfold nextPartition
  split
  · exact ⟨_, rfl⟩
  · exact ⟨_, rfl⟩

variable (broker : Broker σ)

theorem openWriter_keeps (place : Place) :
    (openWriter broker place).Keeps Session.settled := by
  refine .bind .read fun session => ?_
  split
  · exact .pure ()
  · split
    · exact .fail _
    · refine .bind (.mapError (withBroker_keeps _)) fun _ => ?_
      exact .change fun _ => rfl

/-- Opens a writer and appends payloads. -/
def deliverTo (place : Place) (payloads : List Bytes) : Transport (Session σ) Unit := do
  openWriter broker place
  (Session.withBroker (broker.append place payloads)).mapError
    fun _ => .flush (atTopic place.topic)

theorem deliver_apply (topic : String) (payloads : List Bytes) (session : Session σ) :
    deliver broker topic payloads session =
      deliverTo broker { topic, partition := (nextPartition topic session.backend).1 } payloads
        { session with backend := (nextPartition topic session.backend).2 } := rfl

theorem deliverTo_keeps (place : Place) (payloads : List Bytes) :
    (deliverTo broker place payloads).Keeps Session.settled :=
  .bind (openWriter_keeps broker place) fun _ => .mapError (withBroker_keeps _)

theorem deliver_keeps_settled (topic : String) (payloads : List Bytes) :
    (deliver broker topic payloads).Keeps Session.settled := by
  intro session
  obtain ⟨counters, counted⟩ := exists_counters_of_nextPartition topic session.backend
  rw [deliver_apply, deliverTo_keeps, Session.settled, counted, Session.settled]

theorem deliver_keeps (topic : String) (payloads : List Bytes) :
    (deliver broker topic payloads).Keeps Session.waiting := by
  intro session
  have settled := deliver_keeps_settled broker topic payloads session
  exact (congrArg Backend.pendingWrites settled :)

/-- Without a connection there is no writer either, so that nothing is asked of the broker. -/
theorem deliver_disconnected (topic : String) (payloads : List Bytes) (session : Session σ)
    (isConnected : session.backend.isConnected = false) (writers : session.backend.writers = []) :
    deliver broker topic payloads session =
      (.failed (.flush "kafka client is not connected"),
        { session with backend := (nextPartition topic session.backend).2 }) := by
  obtain ⟨counters, counted⟩ := exists_counters_of_nextPartition topic session.backend
  rw [deliver_apply, deliverTo, Action.bind_apply, openWriter, Action.bind_apply, counted]
  simp [isConnected, writers]

/-! ## Deliveries one after the other -/

/-- The entries are delivered one after the other, and each delivery succeeds. -/
inductive Delivers : Session σ → List (String × List Bytes) → Session σ → Prop where
  | nil (session : Session σ) : Delivers session [] session
  | cons {session between last : Session σ} {topic : String} {payloads : List Bytes}
      {entries : List (String × List Bytes)}
      (delivered : deliver broker topic payloads session = (.done (), between))
      (onward : Delivers between entries last) :
      Delivers session ((topic, payloads) :: entries) last

theorem Delivers.waiting_eq {session last : Session σ} {entries : List (String × List Bytes)}
    (delivers : Delivers broker session entries last) : last.waiting = session.waiting := by
  induction delivers with
  | nil session => rfl
  | @cons session _ _ topic payloads _ delivered _ inductionHypothesis =>
      have kept := deliver_keeps broker topic payloads session
      rw [delivered] at kept
      exact inductionHypothesis.trans kept

theorem deliverAll_keeps (entries : List (String × List Bytes)) :
    (deliverAll broker entries).Keeps Session.settled := by
  induction entries with
  | nil => exact .pure ()
  | cons entry entries inductionHypothesis =>
      exact .bind (deliver_keeps_settled broker entry.1 entry.2) fun _ => inductionHypothesis

/-- Deliveries that fail do so at one entry. Those before it succeed, and those after it
are not tried. -/
theorem deliverAll_eq_failed (entries : List (String × List Bytes)) (session : Session σ)
    {after : Session σ} {error : MessengerError}
    (failed : deliverAll broker entries session = (.failed error, after)) :
    ∃ delivered topic payloads untried between,
      entries = delivered ++ (topic, payloads) :: untried ∧
      Delivers broker session delivered between ∧
      deliver broker topic payloads between = (.failed error, after) := by
  induction entries generalizing session with
  | nil => cases failed
  | cons entry entries inductionHypothesis =>
      obtain ⟨topic, payloads⟩ := entry
      rw [deliverAll, Action.bind_apply] at failed
      cases course : deliver broker topic payloads session with
      | mk outcome between =>
          rw [course] at failed
          cases outcome with
          | done value =>
              obtain ⟨delivered, failing, lost, untried, last, rfl, delivers, atLast⟩ :=
                inductionHypothesis between failed
              exact ⟨(topic, payloads) :: delivered, failing, lost, untried, last, rfl,
                .cons course delivers, atLast⟩
          | failed cause =>
              cases failed
              exact ⟨[], topic, payloads, entries, session, rfl, .nil session, course⟩
          | halted => cases failed

/-! ## Flushing -/

/-- With nothing waiting, a termination succeeds and asks nothing of the broker. -/
theorem terminate_of_waiting_nil {session : Session σ} (nothing : session.waiting = []) :
    terminate broker session =
      (.done (), { session with backend := release session.backend }) := by
  have isEmpty : session.backend.pendingWrites.isEmpty = true := List.isEmpty_iff.mpr nothing
  simp only [terminate, isEmpty, if_true]

/-- A flush that fails has delivered the topics before the failing one, in their order. The
payloads of the failing topic are gone with it, and so are those of the topics after it,
which were never tried: nothing waits any more, and a termination that comes next asks
nothing of the broker and reports no loss. Without a connection it is the first topic that
fails, and the broker is not asked at all. -/
theorem flush_eq_failed (session after : Session σ) (error : MessengerError)
    (failed : flush broker session = (.failed error, after)) :
    ∃ delivered topic payloads untried between,
      session.waiting = delivered ++ (topic, payloads) :: untried ∧
      Delivers broker session.emptied delivered between ∧
      deliver broker topic payloads between = (.failed error, after) ∧
      after.waiting = [] ∧
      terminate broker after = (.done (), { after with backend := release after.backend }) ∧
      (session.backend.isConnected = false → session.backend.writers = [] →
        delivered = [] ∧ error = .flush "kafka client is not connected" ∧
          after.broker = session.broker) := by
  obtain ⟨delivered, topic, payloads, untried, between, entries, delivers, atBetween⟩ :=
    deliverAll_eq_failed broker session.waiting session.emptied failed
  have nothing : after.waiting = [] := by
    have kept := deliver_keeps broker topic payloads between
    rw [atBetween, delivers.waiting_eq] at kept
    exact kept
  refine ⟨delivered, topic, payloads, untried, between, entries, delivers, atBetween, nothing,
    terminate_of_waiting_nil broker nothing, ?_⟩
  intro isConnected writers
  have refused := fun topic payloads =>
    deliver_disconnected broker topic payloads session.emptied isConnected writers
  cases delivers with
  | nil =>
      rw [refused] at atBetween
      cases atBetween
      exact ⟨rfl, rfl, rfl⟩
  | cons first _ =>
      rw [refused] at first
      cases first

end

/-- A backend without a connection, in which a payload waits for each of two topics. -/
def idleSession : Session Logs where
  backend := {
    sinks := ["answers", "audit"]
    pendingWrites := [("answers", [[0x7B, 0x7D]]), ("audit", [[0x7B, 0x7D]])] }
  broker := {}

/-- Its flush fails at the first topic, and the payload of the second is gone as well. -/
theorem flush_idleSession :
    ∃ after, flush Logs.broker idleSession =
        (.failed (.flush "kafka client is not connected"), after) ∧
      idleSession.waiting.map Prod.fst = ["answers", "audit"] ∧
      after.waiting = [] ∧
      terminate Logs.broker after =
        (.done (), { after with backend := release after.backend }) ∧
      after.broker.requests = [] := by
  have failed : flush Logs.broker idleSession =
      (.failed (.flush "kafka client is not connected"), idleSession.emptied) := rfl
  obtain ⟨_, _, _, _, _, _, _, _, nothing, terminated, disconnected⟩ :=
    flush_eq_failed Logs.broker idleSession idleSession.emptied _ failed
  obtain ⟨_, _, sameBroker⟩ := disconnected rfl rfl
  refine ⟨_, failed, rfl, nothing, terminated, ?_⟩
  rw [sameBroker]
  rfl

/-- A connected backend with two sinks, and a broker that refuses the next records for the
first of them. -/
def refusedSession : Session Logs where
  backend := {
    isConnected := true
    sinks := ["answers", "audit"]
    partitions := [("answers", [0]), ("audit", [0])] }
  broker := {
    topics := [
      { name := "answers", logs := [(0, [])], refusesNext := true },
      { name := "audit", logs := [(0, [])] }] }

/-- A payload is produced for both sinks and the flush fails at the first. The second,
which would have taken it, is never asked to; its payload does not wait for the termination
either, and that reports no loss. -/
theorem flush_drops_untried :
    ∃ waiting flushed terminated,
      (byteMessenger Logs.broker).produce [0x7B, 0x7D] refusedSession = (.done (), waiting) ∧
      flush Logs.broker waiting = (.failed (.flush (atTopic "answers")), flushed) ∧
      terminate Logs.broker flushed = (.done (), terminated) ∧
      ("audit", [[0x7B, 0x7D]]) ∈ waiting.waiting ∧
      ("audit", [[0x7B, 0x7D]]) ∉ flushed.waiting ∧
      terminated.broker.requests =
        [.append { topic := "answers", partition := 0 } [[0x7B, 0x7D]]] := by
  refine ⟨_, _, _, rfl, rfl, rfl, ?_, ?_, ?_⟩
  · decide +kernel
  · decide +kernel
  · decide +kernel

end Kafka

end PromptRelay
