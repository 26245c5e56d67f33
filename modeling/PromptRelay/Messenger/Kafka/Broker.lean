import PromptRelay.Messenger.Basic

/-!
Contract: what a Kafka broker can be asked, and a broker made of logs.

Owns:
- the requests to a broker, as steps on a state;
- partitions as logs of records, from which readers fetch and to which writers
  append;
- faults that can be prepared, and how long fetches without records are answered.

Does not own: who reads and writes what.
-/

namespace PromptRelay.Kafka

open Text (Bytes)

/-- A record as it is fetched: its offset, and its value unless it has none. -/
structure Record where
  offset : Nat
  value : Option Bytes
deriving DecidableEq, Repr

/-- A partition of a topic. -/
structure Place where
  topic : String
  partition : Nat
deriving DecidableEq, Repr

/-- The partitions of each topic, ascending. -/
abbrev Partitions := List (String × List Nat)

/-- The requests to a broker. Their errors give no account of themselves. -/
structure Broker (σ : Type) where
  listPartitions : Action Unit σ Partitions
  /-- Opens a partition for reading or writing. -/
  openPlace : Place → Action Unit σ Unit
  latestOffset : Place → Action Unit σ Nat
  /-- The records from an offset on. -/
  fetch : Place → (offset : Nat) → Action Unit σ (List Record)
  append : Place → List Bytes → Action Unit σ Unit
  /-- After how many fetches in a row without a value a reader gives up. -/
  mostFetches : σ → Nat

/-! ## Logs -/

structure Topic where
  name : String
  /-- The partitions, ascending, each with the values of its records. -/
  logs : List (Nat × List (Option Bytes))
  isInternal : Bool := false
  hidesOffsets : Bool := false
  /-- The partitions whose next fetch fails. -/
  failingFetches : List Nat := []
  /-- Whether the next records to be appended are refused. -/
  refusesNext : Bool := false
deriving Repr

/-- What has been asked of a broker. -/
inductive Request where
  | fetch (place : Place) (offset : Nat)
  | append (place : Place) (values : List Bytes)
deriving DecidableEq, Repr

structure Logs where
  topics : List Topic := []
  /-- The most records that a fetch gives. -/
  fetchLimit : Option Nat := none
  /-- Whether a fetch gives its records twice. -/
  repeatsRecords : Bool := false
  /-- How many fetches in a row are answered without records. -/
  patience : Nat := 6
  emptyFetches : Nat := 0
  requests : List Request := []
deriving Repr

namespace Logs

def topic? (logs : Logs) (name : String) : Option Topic :=
  logs.topics.find? fun topic => topic.name = name

def changeTopic (name : String) (f : Topic → Topic) (logs : Logs) : Logs :=
  { logs with topics := logs.topics.map fun topic =>
      if topic.name = name then f topic else topic }

/-- The values of a partition, if there is one. -/
def values? (logs : Logs) (place : Place) : Option (List (Option Bytes)) :=
  (logs.topic? place.topic).bind fun topic => topic.logs.lookup place.partition

def extend (place : Place) (values : List (Option Bytes)) (logs : Logs) : Logs :=
  logs.changeTopic place.topic fun topic =>
    { topic with logs := topic.logs.map fun log =>
        if log.1 = place.partition then (log.1, log.2 ++ values) else log }

def note (request : Request) (logs : Logs) : Logs :=
  { logs with requests := logs.requests ++ [request] }

def size (logs : Logs) : Nat :=
  (logs.topics.flatMap fun topic => topic.logs.flatMap Prod.snd).length

/-! ## Requests -/

def listPartitions : Action Unit Logs Partitions := fun logs =>
  let known := logs.topics.filter fun topic => !topic.isInternal
  (.done (known.map fun topic => (topic.name, topic.logs.map Prod.fst)), logs)

def openPlace (place : Place) : Action Unit Logs Unit := fun logs =>
  (if (logs.values? place).isSome then .done () else .failed (), logs)

def latestOffset (place : Place) : Action Unit Logs Nat := fun logs =>
  let isHidden := (logs.topic? place.topic).any Topic.hidesOffsets
  match logs.values? place with
  | some values => (if isHidden then .failed () else .done values.length, logs)
  | none => (.failed (), logs)

/-- The records of a partition from an offset on, as a fetch gives them. -/
def recordsFrom (logs : Logs) (place : Place) (offset : Nat) : List Record :=
  let records := ((logs.values? place).getD []).zipIdx.map fun entry =>
    { offset := entry.2, value := entry.1 }
  let found := records.drop offset
  let found := (logs.fetchLimit.map found.take).getD found
  if logs.repeatsRecords then found ++ found else found

def fetch (place : Place) (offset : Nat) : Action Unit Logs (List Record) := fun logs =>
  let logs := logs.note (.fetch place offset)
  let isFailing := (logs.topic? place.topic).any fun topic =>
    topic.failingFetches.contains place.partition
  if isFailing then
    let logs := logs.changeTopic place.topic fun topic =>
      { topic with failingFetches := topic.failingFetches.filter (· ≠ place.partition) }
    (.failed (), { logs with emptyFetches := 0 })
  else
    match logs.recordsFrom place offset with
    | [] =>
      let count := logs.emptyFetches + 1
      (if logs.patience < count then .pending else .done [], { logs with emptyFetches := count })
    | records => (.done records, { logs with emptyFetches := 0 })

def append (place : Place) (values : List Bytes) : Action Unit Logs Unit := fun logs =>
  let logs := logs.note (.append place values)
  if (logs.topic? place.topic).any Topic.refusesNext then
    (.failed (), logs.changeTopic place.topic fun topic => { topic with refusesNext := false })
  else if (logs.values? place).isNone then
    (.failed (), logs)
  else
    (.done (), logs.extend place (values.map some))

/-- Every fetch with records passes some record, and few without any are
answered in between. -/
def mostFetches (logs : Logs) : Nat :=
  (logs.size + 2) * (logs.patience + 2)

end Logs

/-- The broker that the logs are. -/
def Logs.broker : Broker Logs where
  listPartitions := Logs.listPartitions
  openPlace := Logs.openPlace
  latestOffset := Logs.latestOffset
  fetch := Logs.fetch
  append := Logs.append
  mostFetches := Logs.mostFetches

end PromptRelay.Kafka
