import PromptRelay.Detail
import PromptRelay.Messenger.Bytes
import PromptRelay.Messenger.Kafka.Broker
import PromptRelay.Word

/-!
Contract: the transport of payloads over Kafka topics.

Owns:
- one reader for every partition of every source topic, all of which are read in
  turn from the latest offset on;
- payloads that wait to be delivered, by sink topic, and the partition that each
  delivery goes to;
- flushing, and terminating with a last delivery.

Does not own: the broker.
-/

namespace PromptRelay.Kafka

open Text (Bytes)

/-- A reader of one partition. -/
structure Reader where
  place : Place
  /-- The offset of the next record to be read. -/
  offset : Nat
deriving DecidableEq, Repr

structure Backend where
  /-- Whether there is a connection to the broker. -/
  isConnected : Bool := false
  readers : List Reader := []
  /-- Which reader reads next. -/
  nextReader : Nat := 0
  pendingReads : List Bytes := []
  sinks : List String := []
  /-- The known partitions of the sinks. -/
  partitions : Partitions := []
  /-- How often a partition has been chosen, by topic. -/
  counters : List (String × Nat) := []
  writers : List Place := []
  /-- The payloads that wait, by topic, in the order of the topics' names. -/
  pendingWrites : List (String × List Bytes) := []
deriving DecidableEq, Repr

/-! ## Entries by topic -/

/-- Changes the entry of a topic, or makes one. -/
def alterEntry (topic : String) (f : Option α → α) : List (String × α) → List (String × α)
  | [] => [(topic, f none)]
  | (other, value) :: rest =>
    if other = topic then (other, f (some value)) :: rest
    else (other, value) :: alterEntry topic f rest

/-- The same among entries in the order of their topics. -/
def alterOrdered (topic : String) (f : Option α → α) : List (String × α) → List (String × α)
  | [] => [(topic, f none)]
  | (other, value) :: rest =>
    if topic < other then (topic, f none) :: (other, value) :: rest
    else if other = topic then (other, f (some value)) :: rest
    else (other, value) :: alterOrdered topic f rest

/-! ## Readers -/

/-- A place for each partition of each source topic, in the order of the topics.
Every topic has to have a partition. -/
def readerPlaces (known : Partitions) : (topics : List String) →
    Except MessengerError (List Place)
  | [] => .ok []
  | topic :: topics =>
    match known.lookup topic with
    | some (first :: others) => do
      let places := ((first :: others).mergeSort (· ≤ ·)).map fun partition =>
        { topic, partition }
      .ok (places ++ (← readerPlaces known topics))
    | _ => .error (.connect ("unknown source topic `" ++ topic ++ "`"))

/-! ## Writers -/

/-- The partition that stands in for unknown ones. -/
def defaultPartition : Nat := 0

/-- The partition for the next delivery to a topic: all of its partitions in turn.
The count starts again after 64 bits. -/
def nextPartition (topic : String) (backend : Backend) : Nat × Backend :=
  match backend.partitions.lookup topic with
  | some (first :: others) =>
    let partitions := first :: others
    let count := (backend.counters.lookup topic).getD 0
    let counters := alterEntry topic (fun _ => (count + 1) % Word.limit) backend.counters
    (partitions.getD (count % partitions.length) defaultPartition, { backend with counters })
  | _ => (defaultPartition, backend)

/-! ## Operations -/

/-- A backend and the broker it works with. -/
structure Session (σ : Type) where
  backend : Backend
  broker : σ

namespace Session

def withBackend (action : Action ε Backend α) : Action ε (Session σ) α :=
  action.onPart backend fun backend session => { session with backend }

def withBroker (action : Action ε σ α) : Action ε (Session σ) α :=
  action.onPart broker fun broker session => { session with broker }

end Session

open Session

variable {σ : Type} (broker : Broker σ)

/-- The account of a failure at a topic. -/
def atTopic (topic : String) : String :=
  "topic `" ++ topic ++ "`: " ++ detail

def atPlace (place : Place) : String :=
  "topic `" ++ place.topic ++ "` partition " ++ toString place.partition ++ ": " ++ detail

/-- Opens a reader at the end of each partition. -/
def openReaders : List Place → Transport σ (List Reader)
  | [] => pure []
  | place :: places => do
    (broker.openPlace place).mapError fun _ => .connect detail
    let offset ← (broker.latestOffset place).mapError fun _ => .connect detail
    let readers ← openReaders places
    pure ({ place, offset } :: readers)

/-- Connects as settings say. Without topics no connection is needed. -/
def connect (topics : Topics) : Transport σ Backend := do
  if !topics.hasSource && !topics.hasSink then
    pure {}
  else
    let known ← broker.listPartitions.mapError fun _ => .connect detail
    let places ← .ofExcept (readerPlaces known topics.sources)
    let readers ← openReaders broker places
    pure {
      isConnected := true
      readers
      sinks := topics.sinks
      partitions := known.filter fun entry => topics.sinks.contains entry.1 }

/-- What a reader takes from fetched records: those that it has not read yet. -/
def takeRecords (offset : Nat) : List Record → Nat × List Bytes
  | [] => (offset, [])
  | record :: records =>
    if record.offset < offset then takeRecords offset records
    else
      let (offset, values) := takeRecords (record.offset + 1) records
      (offset, record.value.toList ++ values)

/-- Gives the turn to the next reader. -/
def takeTurn (backend : Backend) : Nat × Backend :=
  let index := backend.nextReader % backend.readers.length
  (index, { backend with nextReader := index + 1 })

/-- Keeps what a reader has fetched. -/
def keepRecords (index : Nat) (reader : Reader) (records : List Record) (backend : Backend) :
    Backend :=
  let (offset, values) := takeRecords reader.offset records
  { backend with
    readers := backend.readers.set index { reader with offset }
    pendingReads := backend.pendingReads ++ values }

/-- The next payload. Readers fetch in turn until there is one. `fuel` bounds the
number of fetches. -/
def consumeFrom : (fuel : Nat) → Transport (Session σ) (Option Bytes)
  | 0 => .halt .waiting
  | fuel + 1 => do
    let session ← .read
    match session.backend.pendingReads with
    | payload :: pendingReads =>
      withBackend (.change fun backend => { backend with pendingReads })
      pure (some payload)
    | [] =>
      let (index, backend) := takeTurn session.backend
      withBackend (.change fun _ => backend)
      match backend.readers[index]? with
      | none => pure none
      | some reader => do
        let records ← (withBroker (broker.fetch reader.place reader.offset)).mapError
          fun _ => .receive (atPlace reader.place)
        withBackend (.change (keepRecords index reader records))
        consumeFrom fuel

def consume : Transport (Session σ) (Option Bytes) := do
  let session ← .read
  if session.backend.readers.isEmpty then pure none
  else consumeFrom broker (broker.mostFetches session.broker + 1)

/-- Lets a payload wait for every sink. -/
def buffer (payload : Bytes) (backend : Backend) : Backend :=
  { backend with
    pendingWrites := backend.sinks.foldl (fun waiting topic =>
      alterOrdered topic (fun payloads => payloads.getD [] ++ [payload]) waiting)
      backend.pendingWrites }

/-- Opens a writer, unless it is open already. -/
def openWriter (place : Place) : Transport (Session σ) Unit := do
  let session ← .read
  if session.backend.writers.contains place then pure ()
  else if !session.backend.isConnected then .fail (.flush "kafka client is not connected")
  else do
    (withBroker (broker.openPlace place)).mapError fun _ => .flush (atTopic place.topic)
    withBackend (.change fun backend => { backend with writers := place :: backend.writers })

/-- Delivers the payloads of one topic to its next partition. -/
def deliver (topic : String) (payloads : List Bytes) : Transport (Session σ) Unit := do
  let session ← .read
  let (partition, backend) := nextPartition topic session.backend
  withBackend (.change fun _ => backend)
  openWriter broker { topic, partition }
  (withBroker (broker.append { topic, partition } payloads)).mapError
    fun _ => .flush (atTopic topic)

def deliverAll : List (String × List Bytes) → Transport (Session σ) Unit
  | [] => pure ()
  | (topic, payloads) :: rest => do
    deliver broker topic payloads
    deliverAll rest

/-- Delivers all that waits, topic by topic. A failure ends the flush, and nothing
waits after it. -/
def flush : Transport (Session σ) Unit := do
  let session ← .read
  withBackend (.change fun backend => { backend with pendingWrites := [] })
  deliverAll broker session.backend.pendingWrites

/-- Gives up readers, writers and the connection. -/
def release (backend : Backend) : Backend :=
  { backend with
    isConnected := false
    readers := []
    pendingReads := []
    writers := []
    pendingWrites := [] }

/-- Delivers what waits and releases the backend, even if the delivery fails. -/
def terminate : Transport (Session σ) Unit := fun session =>
  let delivered := if session.backend.pendingWrites.isEmpty then (.done (), session)
    else flush broker session
  match delivered with
  | (.halted halt, session) => (.halted halt, session)
  | (outcome, session) => (outcome, { session with backend := release session.backend })

/-- The byte transport over a broker. -/
def byteMessenger : ByteMessenger (Session σ) where
  consume := consume broker
  produce payload := withBackend (.change (buffer payload))
  flush := flush broker
  terminate := terminate broker

/-! ## Laws -/

/-- A connection has readers, sinks and partitions, but nothing that comes of operations. -/
theorem eq_of_connect {topics : Topics} {state after : σ} {backend : Backend}
    (connected : connect broker topics state = (.done backend, after)) :
    backend = {} ∨ ∃ readers partitions,
      backend = { isConnected := true, readers, sinks := topics.sinks, partitions } := by
  rw [connect] at connected
  split at connected
  · cases connected
    exact .inl rfl
  · obtain ⟨known, _, _, connected⟩ := Action.bind_eq_done_iff.mp connected
    obtain ⟨places, _, _, connected⟩ := Action.bind_eq_done_iff.mp connected
    obtain ⟨readers, _, _, connected⟩ := Action.bind_eq_done_iff.mp connected
    cases connected
    exact .inr ⟨readers, _, rfl⟩

end PromptRelay.Kafka
