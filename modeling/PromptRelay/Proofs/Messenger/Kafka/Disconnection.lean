import PromptRelay.Proofs.Messenger.Kafka.Delivery
import PromptRelay.Proofs.Messenger.Kafka.Entries

/-!
Contract: a backend without a connection.

Owns:
- the payloads that wait for a topic, and how a payload comes to wait for every sink;
- operations on a transport of payloads one after the other, and the sessions that they lead to;
- what the operations come to without a connection: nothing is consumed, payloads wait, and those
  that still wait when the backend flushes or terminates are reported as lost.

Does not own: deliveries to a broker.

The entries of a session are in the order of their topics and none of them is empty, and without
a connection there are neither readers nor writers. Every operation keeps this, so that it holds
of all sessions that can come about; what an operation comes to is read off it.
-/

namespace PromptRelay

/-! ## Operations one after the other -/

/-- What a transport of payloads can be asked for. -/
inductive PayloadOperation where
  | consume
  | produce (payload : Text.Bytes)
  | flush
  | terminate
deriving DecidableEq, Repr

namespace ByteMessenger

/-- The state that an operation leaves behind, also if it fails. -/
def stateAfter (transport : ByteMessenger σ) (state : σ) : PayloadOperation → σ
  | .consume => (transport.consume state).2
  | .produce payload => (transport.produce payload state).2
  | .flush => (transport.flush state).2
  | .terminate => (transport.terminate state).2

def stateAfterAll (transport : ByteMessenger σ) (state : σ)
    (operations : List PayloadOperation) : σ :=
  operations.foldl transport.stateAfter state

end ByteMessenger

namespace Kafka

open PromptRelay.Action (Keeps)
open Text (Bytes)

/-! ## Payloads that wait -/

/-- The payloads that wait for a topic. -/
def waitingFor (topic : String) (waiting : List (String × List Bytes)) : List Bytes :=
  (waiting.lookup topic).getD []

/-- The entries are in the order of their topics, and each of them has payloads. -/
structure IsOrderly (waiting : List (String × List Bytes)) : Prop where
  ascending : Ascending waiting
  waits : ∀ entry ∈ waiting, entry.2 ≠ []

theorem isOrderly_nil : IsOrderly [] where
  ascending := .nil
  waits := by
    intro entry member
    cases member

/-- Lets a payload wait for one topic. -/
def enqueue (payload : Bytes) (waiting : List (String × List Bytes)) (topic : String) :
    List (String × List Bytes) :=
  alterOrdered topic (fun payloads => payloads.getD [] ++ [payload]) waiting

theorem pendingWrites_buffer (payload : Bytes) (backend : Backend) :
    (buffer payload backend).pendingWrites =
      backend.sinks.foldl (enqueue payload) backend.pendingWrites := rfl

namespace IsOrderly

variable {waiting : List (String × List Bytes)}

theorem enqueue (isOrderly : IsOrderly waiting) (payload : Bytes) (topic : String) :
    IsOrderly (enqueue payload waiting topic) := by
  refine ⟨isOrderly.ascending.alterOrdered _ _, ?_⟩
  intro entry member
  rcases mem_alterOrdered member with old | ⟨_, found, changed⟩
  · exact isOrderly.waits entry old
  · rw [changed]
    exact List.append_ne_nil_of_right_ne_nil _ (List.cons_ne_nil _ _)

theorem waitingFor_enqueue (isOrderly : IsOrderly waiting) (payload : Bytes)
    (topic other : String) :
    waitingFor other (Kafka.enqueue payload waiting topic) =
      waitingFor other waiting ++ List.replicate ([topic].count other) payload := by
  rw [waitingFor, Kafka.enqueue, isOrderly.ascending.lookup_alterOrdered]
  by_cases same : other = topic
  · subst same
    rw [if_pos rfl, List.count_singleton_self]
    rfl
  · rw [if_neg same, List.count_singleton, beq_eq_false_iff_ne.mpr (Ne.symm same)]
    exact (List.append_nil _).symm

theorem foldl_enqueue (isOrderly : IsOrderly waiting) (payload : Bytes) (sinks : List String) :
    IsOrderly (sinks.foldl (Kafka.enqueue payload) waiting) := by
  induction sinks generalizing waiting with
  | nil => exact isOrderly
  | cons sink sinks inductionHypothesis =>
      exact inductionHypothesis (isOrderly.enqueue payload sink)

/-- The payload waits once more for a topic each time that the sinks list it. -/
theorem waitingFor_foldl_enqueue (isOrderly : IsOrderly waiting) (payload : Bytes)
    (sinks : List String) (topic : String) :
    waitingFor topic (sinks.foldl (Kafka.enqueue payload) waiting) =
      waitingFor topic waiting ++ List.replicate (sinks.count topic) payload := by
  induction sinks generalizing waiting with
  | nil => exact (List.append_nil _).symm
  | cons sink sinks inductionHypothesis =>
      rw [List.foldl_cons, inductionHypothesis (isOrderly.enqueue payload sink),
        isOrderly.waitingFor_enqueue, List.append_assoc, ← List.replicate_add,
        ← List.count_append, List.singleton_append]

/-- There are no entries exactly if nothing waits for any topic. -/
theorem eq_nil_iff (isOrderly : IsOrderly waiting) :
    waiting = [] ↔ ∀ topic, waitingFor topic waiting = [] := by
  constructor
  · rintro rfl topic
    rfl
  · intro nothing
    cases waiting with
    | nil => rfl
    | cons entry entries =>
        obtain ⟨topic, payloads⟩ := entry
        have first := nothing topic
        rw [waitingFor, lookup_cons_eq, if_pos rfl, Option.getD_some] at first
        exact absurd first (isOrderly.waits _ List.mem_cons_self)

end IsOrderly

/-! ## Backends that come about -/

/-- What a backend holds fits together: without a connection nothing reads and nothing writes. -/
structure Backend.IsConsistent (backend : Backend) : Prop where
  isOrderly : IsOrderly backend.pendingWrites
  readers : backend.isConnected = false → backend.readers = []
  writers : backend.isConnected = false → backend.writers = []

theorem isConsistent_idle (sinks : List String) : Backend.IsConsistent { sinks } :=
  ⟨isOrderly_nil, fun _ => rfl, fun _ => rfl⟩

theorem isConsistent_release (backend : Backend) : (release backend).IsConsistent :=
  ⟨isOrderly_nil, fun _ => rfl, fun _ => rfl⟩

section

variable {σ : Type} (broker : Broker σ)

theorem isConsistent_of_connect {topics : Topics} {state after : σ} {backend : Backend}
    (connected : connect broker topics state = (.done backend, after)) :
    backend.IsConsistent := by
  rcases eq_of_connect broker connected with rfl | ⟨_, _, rfl⟩
  · exact isConsistent_idle []
  · exact ⟨isOrderly_nil, nofun, nofun⟩

/-- What consuming leaves alone. -/
def Session.unread (session : Session σ) : Bool × List (String × List Bytes) :=
  (session.backend.isConnected, session.backend.pendingWrites)

theorem withBroker_keeps_unread (action : Action ε σ α) :
    (Session.withBroker action).Keeps Session.unread := fun _ => rfl

theorem consumeFrom_keeps (fuel : Nat) : (consumeFrom broker fuel).Keeps Session.unread := by
  induction fuel with
  | zero => exact fun _ => rfl
  | succ fuel inductionHypothesis =>
      refine .read_bind fun session => ?_
      cases session.backend.pendingReads with
      | cons payload payloads => rfl
      | nil =>
          -- The backend that is put back is the one that has been read, but for whose turn it is.
          have kept : ({ session with backend := (takeTurn session.backend).2 } : Session σ).unread =
              session.unread := rfl
          cases turn : takeTurn session.backend with
          | mk index turned =>
              rw [turn] at kept
              dsimp only
              cases turned.readers[index]? with
              | none => exact kept
              | some reader =>
                  have fetched := withBroker_keeps_unread (broker.fetch reader.place reader.offset)
                  exact (fetched.mapError.bind (fun _ => .bind (fun _ => rfl) fun _ =>
                    inductionHypothesis) _).trans kept

theorem consume_keeps : (consume broker).Keeps Session.unread := by
  refine .read_bind fun session => ?_
  split
  · rfl
  · exact consumeFrom_keeps broker _ session

/-! ## One operation without a connection -/

section

variable {session : Session σ} (consistent : session.backend.IsConsistent)
  (disconnected : session.backend.isConnected = false)

include consistent disconnected

theorem consume_disconnected : consume broker session = (.done none, session) := by
  have noReaders : session.backend.readers.isEmpty = true :=
    List.isEmpty_iff.mpr (consistent.readers disconnected)
  rw [consume, Action.bind_apply, Action.read_apply]
  simp only [noReaders, if_true, Action.pure_apply]

/-- The first delivery fails before the broker is asked. Only if there is none does a flush
succeed. -/
theorem flush_disconnected :
    ∃ counters, flush broker session =
      (if session.waiting = [] then .done () else .failed (.flush "kafka client is not connected"),
        { session with backend := { session.backend with counters, pendingWrites := [] } }) := by
  have course : flush broker session = deliverAll broker session.waiting session.emptied := rfl
  cases waiting : session.waiting with
  | nil =>
      rw [course, waiting, if_pos rfl]
      exact ⟨_, rfl⟩
  | cons entry entries =>
      obtain ⟨topic, payloads⟩ := entry
      obtain ⟨counters, counted⟩ := exists_counters_of_nextPartition topic session.emptied.backend
      have refused := deliver_disconnected broker topic payloads session.emptied disconnected
        (consistent.writers disconnected)
      rw [course, waiting, deliverAll, Action.bind_apply, refused, counted,
        if_neg (List.cons_ne_nil _ _)]
      exact ⟨counters, rfl⟩

theorem terminate_disconnected :
    ∃ counters, terminate broker session =
      (if session.waiting = [] then .done () else .failed (.flush "kafka client is not connected"),
        { session with backend := release { session.backend with counters } }) := by
  by_cases nothing : session.waiting = []
  · rw [terminate_of_waiting_nil broker nothing, if_pos nothing]
    exact ⟨_, rfl⟩
  · obtain ⟨counters, flushed⟩ := flush_disconnected broker consistent disconnected
    have waits : session.backend.pendingWrites.isEmpty = false :=
      Bool.eq_false_iff.mpr fun isEmpty => nothing (List.isEmpty_iff.mp isEmpty)
    rw [if_neg nothing] at flushed ⊢
    simp only [terminate, waits, Bool.false_eq_true, if_false, flushed]
    exact ⟨counters, rfl⟩

end

/-! ## Sessions that come about -/

theorem Backend.IsConsistent.buffer {backend : Backend} (consistent : backend.IsConsistent)
    (payload : Bytes) : (buffer payload backend).IsConsistent where
  isOrderly := by
    rw [pendingWrites_buffer]
    exact consistent.isOrderly.foldl_enqueue payload backend.sinks
  readers := consistent.readers
  writers := consistent.writers

theorem isConsistent_consume {session : Session σ} (consistent : session.backend.IsConsistent) :
    (consume broker session).2.backend.IsConsistent := by
  cases connected : session.backend.isConnected with
  | false =>
      rw [consume_disconnected broker consistent connected]
      exact consistent
  | true =>
      have kept := consume_keeps broker session
      rw [Session.unread, Session.unread, Prod.mk.injEq, connected] at kept
      obtain ⟨isConnected, waiting⟩ := kept
      exact ⟨waiting ▸ consistent.isOrderly, by simp [isConnected], by simp [isConnected]⟩

theorem isConsistent_flush {session : Session σ} (consistent : session.backend.IsConsistent) :
    (flush broker session).2.backend.IsConsistent := by
  cases connected : session.backend.isConnected with
  | false =>
      obtain ⟨counters, flushed⟩ := flush_disconnected broker consistent connected
      rw [flushed]
      exact ⟨isOrderly_nil, consistent.readers, consistent.writers⟩
  | true =>
      have settled : (flush broker session).2.settled = session.emptied.settled :=
        deliverAll_keeps broker session.waiting session.emptied
      have isConnected : (flush broker session).2.backend.isConnected = true :=
        (congrArg Backend.isConnected settled).trans connected
      have waiting : (flush broker session).2.backend.pendingWrites = [] :=
        (congrArg Backend.pendingWrites settled :)
      exact ⟨waiting ▸ isOrderly_nil, by simp [isConnected], by simp [isConnected]⟩

/-- A termination that does not return has got as far as its flush has. -/
theorem isConsistent_terminate {session : Session σ} (consistent : session.backend.IsConsistent) :
    (terminate broker session).2.backend.IsConsistent := by
  rw [terminate]
  split
  case h_1 after course =>
      split at course
      · cases course
      · have flushed := isConsistent_flush broker consistent
        rw [course] at flushed
        exact flushed
  case h_2 => exact isConsistent_release _

/-- The sessions that come about: those of a backend with sinks but no connection, or as
connecting makes it, and those that operations lead to. The broker changes on its own as well. -/
inductive Reached : Session σ → Prop where
  | idle (sinks : List String) (state : σ) : Reached { backend := { sinks }, broker := state }
  | connected {topics : Topics} {state after : σ} {backend : Backend}
      (course : connect broker topics state = (.done backend, after)) :
      Reached { backend, broker := after }
  | operated {session : Session σ} (reached : Reached session) (operation : PayloadOperation) :
      Reached ((byteMessenger broker).stateAfter session operation)
  | elsewhere {session : Session σ} (reached : Reached session) (state : σ) :
      Reached { session with broker := state }

theorem isConsistent_stateAfter {session : Session σ} (consistent : session.backend.IsConsistent)
    (operation : PayloadOperation) :
    ((byteMessenger broker).stateAfter session operation).backend.IsConsistent := by
  cases operation with
  | consume => exact isConsistent_consume broker consistent
  | produce payload => exact consistent.buffer payload
  | flush => exact isConsistent_flush broker consistent
  | terminate => exact isConsistent_terminate broker consistent

theorem Reached.isConsistent {session : Session σ} (reached : Reached broker session) :
    session.backend.IsConsistent := by
  induction reached with
  | idle sinks state => exact isConsistent_idle sinks
  | connected course => exact isConsistent_of_connect broker course
  | operated _ operation inductionHypothesis =>
      exact isConsistent_stateAfter broker inductionHypothesis operation
  | elsewhere _ _ inductionHypothesis => exact inductionHypothesis

/-! ## Operations without a connection -/

/-- A session without a connection, and the sinks that its payloads wait for. -/
structure Session.IsAlone (sinks : List String) (session : Session σ) : Prop where
  consistent : session.backend.IsConsistent
  disconnected : session.backend.isConnected = false
  sinks_eq : session.backend.sinks = sinks

namespace Session.IsAlone

variable {sinks : List String} {session : Session σ}

/-- Nothing is asked of the broker. -/
theorem exists_stateAfter (isAlone : session.IsAlone sinks) (operation : PayloadOperation) :
    ∃ backend, (byteMessenger broker).stateAfter session operation = { session with backend } ∧
      backend.isConnected = false ∧ backend.sinks = sinks := by
  obtain ⟨consistent, disconnected, sinks_eq⟩ := isAlone
  cases operation with
  | consume =>
      have consumed := consume_disconnected broker consistent disconnected
      exact ⟨_, congrArg Prod.snd consumed, disconnected, sinks_eq⟩
  | produce payload => exact ⟨_, rfl, disconnected, sinks_eq⟩
  | flush =>
      obtain ⟨counters, flushed⟩ := flush_disconnected broker consistent disconnected
      exact ⟨_, congrArg Prod.snd flushed, disconnected, sinks_eq⟩
  | terminate =>
      obtain ⟨counters, terminated⟩ := terminate_disconnected broker consistent disconnected
      exact ⟨_, congrArg Prod.snd terminated, rfl, sinks_eq⟩

theorem stateAfter (isAlone : session.IsAlone sinks) (operation : PayloadOperation) :
    ((byteMessenger broker).stateAfter session operation).IsAlone sinks := by
  obtain ⟨backend, left, disconnected, sinks_eq⟩ := isAlone.exists_stateAfter broker operation
  refine ⟨isConsistent_stateAfter broker isAlone.consistent operation, ?_, ?_⟩
  · rw [left]
    exact disconnected
  · rw [left]
    exact sinks_eq

theorem stateAfterAll (isAlone : session.IsAlone sinks) (operations : List PayloadOperation) :
    ((byteMessenger broker).stateAfterAll session operations).IsAlone sinks := by
  induction operations generalizing session with
  | nil => exact isAlone
  | cons operation operations inductionHypothesis =>
      exact inductionHypothesis (isAlone.stateAfter broker operation)

end Session.IsAlone

/-- What the operations come to in a session without a connection. -/
structure ActsAlone (sinks : List String) (session : Session σ) : Prop where
  consumes : (byteMessenger broker).consume session = (.done none, session)
  /-- The payload is appended for each sink, as often as it is listed, and for no other topic. -/
  produces : ∀ payload, ∃ produced,
    (byteMessenger broker).produce payload session = (.done (), produced) ∧
      ∀ topic, waitingFor topic produced.waiting =
        waitingFor topic session.waiting ++ List.replicate (sinks.count topic) payload
  flush_done_iff : ((byteMessenger broker).flush session).1 = .done () ↔
    ∀ topic, waitingFor topic session.waiting = []
  flush_failed_iff :
    ((byteMessenger broker).flush session).1 = .failed (.flush "kafka client is not connected") ↔
      ∃ topic, waitingFor topic session.waiting ≠ []
  flush_empties : ((byteMessenger broker).flush session).2.waiting = []
  terminate_done_iff : ((byteMessenger broker).terminate session).1 = .done () ↔
    ∀ topic, waitingFor topic session.waiting = []
  terminate_failed_iff :
    ((byteMessenger broker).terminate session).1 =
        .failed (.flush "kafka client is not connected") ↔
      ∃ topic, waitingFor topic session.waiting ≠ []
  terminate_empties : ((byteMessenger broker).terminate session).2.waiting = []
  terminate_again :
    (byteMessenger broker).terminate ((byteMessenger broker).terminate session).2 =
      (.done (), ((byteMessenger broker).terminate session).2)
  asks_nothing : ∀ operation,
    ((byteMessenger broker).stateAfter session operation).broker = session.broker

/-- Either of two outcomes is told by whether anything waits. -/
theorem lost_iff {waiting : List (String × List Bytes)} (isOrderly : IsOrderly waiting)
    {error : MessengerError} {outcome : Outcome MessengerError Unit}
    (told : outcome = if waiting = [] then .done () else .failed error) :
    (outcome = .done () ↔ ∀ topic, waitingFor topic waiting = []) ∧
      (outcome = .failed error ↔ ∃ topic, waitingFor topic waiting ≠ []) := by
  have someWaits : (∃ topic, waitingFor topic waiting ≠ []) ↔ waiting ≠ [] := by
    rw [Ne, isOrderly.eq_nil_iff, not_forall]
  rw [← isOrderly.eq_nil_iff, someWaits, told]
  by_cases nothing : waiting = []
  · simp [nothing]
  · simp [nothing]

theorem Session.IsAlone.actsAlone {sinks : List String} {session : Session σ}
    (isAlone : session.IsAlone sinks) : ActsAlone broker sinks session := by
  have ⟨consistent, disconnected, sinks_eq⟩ := isAlone
  have isOrderly : IsOrderly session.waiting := consistent.isOrderly
  obtain ⟨counters, flushed⟩ := flush_disconnected broker consistent disconnected
  obtain ⟨advanced, terminated⟩ := terminate_disconnected broker consistent disconnected
  obtain ⟨flushDone, flushFailed⟩ := lost_iff isOrderly (congrArg Prod.fst flushed)
  obtain ⟨terminateDone, terminateFailed⟩ := lost_iff isOrderly (congrArg Prod.fst terminated)
  have closed := congrArg Prod.snd terminated
  have empty : (terminate broker session).2.waiting = [] := by
    rw [closed]
    rfl
  exact {
    consumes := consume_disconnected broker consistent disconnected
    produces := by
      intro payload
      refine ⟨_, rfl, fun topic => ?_⟩
      rw [← sinks_eq]
      exact isOrderly.waitingFor_foldl_enqueue payload session.backend.sinks topic
    flush_done_iff := flushDone
    flush_failed_iff := flushFailed
    flush_empties := (congrArg (fun left => left.2.waiting) flushed :)
    terminate_done_iff := terminateDone
    terminate_failed_iff := terminateFailed
    terminate_empties := empty
    terminate_again := by
      -- Releasing what has been released changes nothing.
      have again := terminate_of_waiting_nil broker empty
      rw [closed] at again
      exact closed ▸ again
    asks_nothing := by
      intro operation
      obtain ⟨backend, left, _⟩ := isAlone.exists_stateAfter broker operation
      rw [left] }

end

/-! ## Summary -/

/-- In a session that has come about and has no connection, whatever operations have been made
of it since: nothing is consumed, a payload that is produced waits at the end for each sink, a
flush and a termination succeed exactly if nothing waits, and nothing waits after a termination,
so that a second one succeeds and changes nothing. The broker is never asked. -/
theorem actsAlone_of_reached {σ : Type} (broker : Broker σ) (start : Session σ)
    (reached : Reached broker start) (disconnected : start.backend.isConnected = false)
    (operations : List PayloadOperation) :
    ActsAlone broker start.backend.sinks
      ((byteMessenger broker).stateAfterAll start operations) := by
  have isAlone : start.IsAlone start.backend.sinks :=
    ⟨reached.isConsistent, disconnected, rfl⟩
  exact (isAlone.stateAfterAll broker operations).actsAlone broker

/-- A backend with two sinks that has never been connected. -/
def unconnectedSession : Session Logs where
  backend := { sinks := ["answers", "audit"] }
  broker := {}

/-- Two payloads wait for the second sink. The termination fails, and another one succeeds. -/
theorem actsAlone_unconnectedSession :
    let waiting := (byteMessenger Logs.broker).stateAfterAll unconnectedSession
      [.produce [0x7B, 0x7D], .consume, .produce [0x5B, 0x5D]]
    waitingFor "audit" waiting.waiting = [[0x7B, 0x7D], [0x5B, 0x5D]] ∧
      (terminate Logs.broker waiting).1 = .failed (.flush "kafka client is not connected") ∧
      terminate Logs.broker (terminate Logs.broker waiting).2 =
        (.done (), (terminate Logs.broker waiting).2) := by
  intro waiting
  have acts := actsAlone_of_reached Logs.broker unconnectedSession (.idle _ _) rfl
    [.produce [0x7B, 0x7D], .consume, .produce [0x5B, 0x5D]]
  have audit : waitingFor "audit" waiting.waiting = [[0x7B, 0x7D], [0x5B, 0x5D]] := by
    decide +kernel
  refine ⟨audit, ?_, acts.terminate_again⟩
  apply acts.terminate_failed_iff.mpr
  refine ⟨"audit", ?_⟩
  rw [audit]
  exact List.cons_ne_nil _ _

end Kafka

end PromptRelay
