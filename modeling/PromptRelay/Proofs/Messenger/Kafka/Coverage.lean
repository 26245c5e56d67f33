import Mathlib
import PromptRelay.Messenger.Connection
import PromptRelay.Settings.Spelling

/-!
Contract: which partitions are read, and by how many readers.

Owns:
- when there are readers for a list of topics, and which topic is to blame if not;
- how many readers each partition has, and the order of the readers;
- that a connection opens a reader for each of these places.

Does not own: what readers fetch.

The places are laid out in one block for each item of the list, so that a topic which is listed
twice has two blocks: a partition has as many readers as its topic has items in the list.
-/

namespace PromptRelay.Kafka

open PromptRelay.Action (bind_eq_done_iff mapError_eq_done_iff)

/-- The partitions that are known of a topic; none if the topic is unknown. -/
def Partitions.ofTopic (known : Partitions) (topic : String) : List Nat :=
  (known.lookup topic).getD []

/-! ## One topic -/

/-- The places of one topic in a list: all of its partitions, ascending. -/
structure IsBlock (known : Partitions) (topic : String) (block : List Place) : Prop where
  topic_eq : ∀ place ∈ block, place.topic = topic
  ascending : (block.map Place.partition).Pairwise (· ≤ ·)
  perm : (block.map Place.partition).Perm (known.ofTopic topic)

/-- The places of a topic, as they are opened. -/
def placesOf (known : Partitions) (topic : String) : List Place :=
  ((known.ofTopic topic).mergeSort (· ≤ ·)).map fun partition => { topic, partition }

theorem map_partition_placesOf (known : Partitions) (topic : String) :
    (placesOf known topic).map Place.partition = (known.ofTopic topic).mergeSort (· ≤ ·) := by
  rw [placesOf, List.map_map]
  exact List.map_id _

theorem isBlock_placesOf (known : Partitions) (topic : String) :
    IsBlock known topic (placesOf known topic) := by
  refine ⟨?_, ?_, ?_⟩
  · intro place member
    obtain ⟨partition, _, rfl⟩ := List.mem_map.mp member
    rfl
  · have sorted := @List.pairwise_mergeSort Nat (fun left right => decide (left ≤ right))
      (by simp only [decide_eq_true_eq]; exact fun _ _ _ => Nat.le_trans)
      (by simp only [Bool.or_eq_true, decide_eq_true_eq]; exact Nat.le_total)
      (known.ofTopic topic)
    rw [map_partition_placesOf]
    exact sorted.imp of_decide_eq_true
  · rw [map_partition_placesOf]
    exact List.mergeSort_perm _ _

/-- A block has a place as often as its topic has the partition. -/
theorem IsBlock.count_eq {known : Partitions} {topic : String} {block : List Place}
    (isBlock : IsBlock known topic block) (place : Place) :
    block.count place =
      if topic = place.topic then (known.ofTopic place.topic).count place.partition else 0 := by
  by_cases same : topic = place.topic
  · have counted : block.count place = (block.map Place.partition).count place.partition := by
      rw [List.count, List.count, List.countP_map]
      apply List.countP_congr
      intro other member
      obtain ⟨otherTopic, partition⟩ := other
      obtain rfl : otherTopic = topic := isBlock.topic_eq _ member
      obtain ⟨placeTopic, placePartition⟩ := place
      obtain rfl : otherTopic = placeTopic := same
      simp
    rw [if_pos same, counted, isBlock.perm.count_eq, same]
  · rw [if_neg same, List.count_eq_zero]
    intro member
    exact same (isBlock.topic_eq place member).symm

/-! ## All topics -/

/-- A topic without a partition ends the list of places with its name. -/
theorem readerPlaces_cons (known : Partitions) (topic : String) (topics : List String) :
    readerPlaces known (topic :: topics) =
      if known.ofTopic topic = [] then
        .error (.connect ("unknown source topic `" ++ topic ++ "`"))
      else
        (readerPlaces known topics).map (placesOf known topic ++ ·) := by
  rw [readerPlaces, placesOf, Partitions.ofTopic]
  cases known.lookup topic with
  | none => rfl
  | some partitions =>
      cases partitions with
      | nil => rfl
      | cons first others =>
          rw [Option.getD_some, if_neg (List.cons_ne_nil first others)]
          cases readerPlaces known topics <;> rfl

theorem readerPlaces_eq_ok_iff (known : Partitions) (topics : List String) (places : List Place) :
    readerPlaces known topics = .ok places ↔
      (∀ topic ∈ topics, known.ofTopic topic ≠ []) ∧ places = topics.flatMap (placesOf known) := by
  induction topics generalizing places with
  | nil =>
      rw [readerPlaces, Except.ok.injEq, List.flatMap_nil, eq_comm]
      simp
  | cons topic topics inductionHypothesis =>
      rw [readerPlaces_cons, List.forall_mem_cons, List.flatMap_cons]
      by_cases unknown : known.ofTopic topic = []
      · simp [unknown]
      · rw [if_neg unknown]
        constructor
        · intro found
          cases later : readerPlaces known topics with
          | error error =>
              rw [later] at found
              cases found
          | ok others =>
              rw [later] at found
              cases found
              obtain ⟨covered, rfl⟩ := (inductionHypothesis others).mp later
              exact ⟨⟨unknown, covered⟩, rfl⟩
        · rintro ⟨⟨_, covered⟩, rfl⟩
          rw [(inductionHypothesis _).mpr ⟨covered, rfl⟩]
          rfl

/-- Of a list that begins with a topic, the first topic without a partition is that one, or the
first one of the others. -/
theorem exists_firstUnknown_cons (known : Partitions) (first : String) (topics : List String)
    (blamed : String → Prop) :
    (∃ earlier topic later, first :: topics = earlier ++ topic :: later ∧
        (∀ other ∈ earlier, known.ofTopic other ≠ []) ∧ known.ofTopic topic = [] ∧ blamed topic) ↔
      if known.ofTopic first = [] then blamed first
      else ∃ earlier topic later, topics = earlier ++ topic :: later ∧
        (∀ other ∈ earlier, known.ofTopic other ≠ []) ∧ known.ofTopic topic = [] ∧
          blamed topic := by
  split
  case isTrue unknown =>
    constructor
    · rintro ⟨earlier, topic, later, parted, covered, missing, isBlamed⟩
      cases earlier with
      | nil =>
          obtain ⟨rfl, rfl⟩ := List.cons.inj parted
          exact isBlamed
      | cons other earlier =>
          obtain ⟨rfl, _⟩ := List.cons.inj parted
          exact absurd unknown (covered first List.mem_cons_self)
    · intro isBlamed
      exact ⟨[], first, topics, rfl, by simp, unknown, isBlamed⟩
  case isFalse covered =>
    constructor
    · rintro ⟨earlier, topic, later, parted, coveredAll, missing, isBlamed⟩
      cases earlier with
      | nil =>
          obtain ⟨rfl, _⟩ := List.cons.inj parted
          exact absurd missing covered
      | cons other earlier =>
          obtain ⟨_, rfl⟩ := List.cons.inj parted
          exact ⟨earlier, topic, later, rfl, (List.forall_mem_cons.mp coveredAll).2, missing,
            isBlamed⟩
    · rintro ⟨earlier, topic, later, rfl, coveredOthers, missing, isBlamed⟩
      exact ⟨first :: earlier, topic, later, rfl,
        List.forall_mem_cons.mpr ⟨covered, coveredOthers⟩, missing, isBlamed⟩

/-- The first topic of the list without a partition is to blame, and no other one. -/
theorem readerPlaces_eq_error_iff (known : Partitions) (topics : List String)
    (error : MessengerError) :
    readerPlaces known topics = .error error ↔
      ∃ earlier topic later, topics = earlier ++ topic :: later ∧
        (∀ other ∈ earlier, known.ofTopic other ≠ []) ∧ known.ofTopic topic = [] ∧
        error = .connect ("unknown source topic `" ++ topic ++ "`") := by
  induction topics with
  | nil => simp [readerPlaces]
  | cons first topics inductionHypothesis =>
      rw [readerPlaces_cons, exists_firstUnknown_cons, ← inductionHypothesis]
      split
      case isTrue => rw [Except.error.injEq, eq_comm]
      case isFalse => cases readerPlaces known topics <;> simp [Except.map]

/-- Every item of the list counts its topic's partitions once more. -/
theorem count_flatMap_placesOf (known : Partitions) (topics : List String) (place : Place) :
    (topics.flatMap (placesOf known)).count place =
      topics.count place.topic * (known.ofTopic place.topic).count place.partition := by
  induction topics with
  | nil => simp
  | cons topic topics inductionHypothesis =>
      rw [List.flatMap_cons, List.count_append, inductionHypothesis,
        (isBlock_placesOf known topic).count_eq place, List.count_cons]
      by_cases same : topic = place.topic
      · simp [same, Nat.add_mul, Nat.add_comm]
      · simp [same]

theorem forall₂_isBlock (known : Partitions) (topics : List String) :
    List.Forall₂ (IsBlock known) topics (topics.map (placesOf known)) := by
  rw [List.forall₂_map_right_iff, List.forall₂_same]
  exact fun topic _ => isBlock_placesOf known topic

/-- No place is named twice if and only if no topic is, given that brokers tell of each partition
once. -/
theorem nodup_flatMap_placesOf_iff {known : Partitions} {topics : List String}
    (covered : ∀ topic ∈ topics, known.ofTopic topic ≠ [])
    (distinct : ∀ topic ∈ topics, (known.ofTopic topic).Nodup) :
    (topics.flatMap (placesOf known)).Nodup ↔ topics.Nodup := by
  simp only [List.nodup_iff_count_le_one, count_flatMap_placesOf]
  constructor
  · intro single topic
    by_cases listed : topic ∈ topics
    · obtain ⟨partition, member⟩ := List.exists_mem_of_ne_nil _ (covered topic listed)
      have counted := single { topic, partition }
      rw [List.count_eq_one_of_mem (distinct topic listed) member, Nat.mul_one] at counted
      exact counted
    · rw [List.count_eq_zero.mpr listed]
      exact Nat.zero_le 1
  · intro single place
    by_cases listed : place.topic ∈ topics
    · have partitions := List.nodup_iff_count_le_one.mp (distinct place.topic listed)
      exact Nat.mul_le_mul (single place.topic) (partitions place.partition)
    · rw [List.count_eq_zero.mpr listed, Nat.zero_mul]
      exact Nat.zero_le 1

/-! ## Connections -/

section

variable {σ : Type} (broker : Broker σ)

/-- Readers are opened one for each place, in the order of the places. -/
theorem places_of_openReaders (places : List Place) {state after : σ} {readers : List Reader}
    (opened : openReaders broker places state = (.done readers, after)) :
    readers.map Reader.place = places := by
  induction places generalizing state readers with
  | nil =>
      cases opened
      rfl
  | cons place places inductionHypothesis =>
      obtain ⟨_, _, _, opened⟩ := bind_eq_done_iff.mp opened
      obtain ⟨offset, _, _, opened⟩ := bind_eq_done_iff.mp opened
      obtain ⟨others, _, openedOthers, opened⟩ := bind_eq_done_iff.mp opened
      cases opened
      rw [List.map_cons, inductionHypothesis openedOthers]

/-- The readers of a connection are at the places that the broker's partitions call for. -/
theorem readerPlaces_of_connect (topics : Topics) {state after : σ} {backend : Backend}
    (isNonempty : topics.sources ≠ [])
    (connected : connect broker topics state = (.done backend, after)) :
    ∃ known between, broker.listPartitions state = (.done known, between) ∧
      readerPlaces known topics.sources = .ok (backend.readers.map Reader.place) := by
  have hasSource : topics.hasSource = true := by simpa [Topics.hasSource] using isNonempty
  rw [connect, hasSource] at connected
  obtain ⟨known, between, listed, connected⟩ := bind_eq_done_iff.mp connected
  obtain ⟨places, _, targeted, connected⟩ := bind_eq_done_iff.mp connected
  obtain ⟨readers, _, opened, connected⟩ := bind_eq_done_iff.mp connected
  refine ⟨known, between, mapError_eq_done_iff.mp listed, ?_⟩
  cases connected
  rw [places_of_openReaders broker places opened]
  cases found : readerPlaces known topics.sources with
  | error error => simp [found, Outcome.ofExcept] at targeted
  | ok others =>
      simp only [found, Action.ofExcept_apply, Outcome.ofExcept] at targeted
      cases targeted
      rfl

end

/-! ## Summary -/

/-- How the places for a list of topics are laid out. -/
structure LaidOut (known : Partitions) (topics : List String) (places : List Place) : Prop where
  /-- A place is there once for each item that names its topic, and others are not there. -/
  count_eq : ∀ place, places.count place =
    topics.count place.topic * (known.ofTopic place.topic).count place.partition
  /-- The topics are in the order of the list, and the partitions of each are ascending. -/
  blocks : ∃ blocks, places = blocks.flatten ∧ List.Forall₂ (IsBlock known) topics blocks
  /-- Partitions have one reader each exactly if no topic is listed twice. -/
  nodup_iff : (∀ topic ∈ topics, (known.ofTopic topic).Nodup) → (places.Nodup ↔ topics.Nodup)

/-- There are places to read for a list of topics if and only if each of them has a known
partition; the first that has none is named otherwise. Each item of the list then has all the
partitions of its topic, ascending and in the order of the list, so that a partition is read as
often as its topic is listed: once, unless the topic is listed again. A connection has a reader at
each of these places. -/
theorem readerPlaces_laidOut (known : Partitions) (topics : List String) :
    ((∃ places, readerPlaces known topics = .ok places) ↔
      ∀ topic ∈ topics, known.ofTopic topic ≠ []) ∧
    (∀ error, readerPlaces known topics = .error error ↔
      ∃ earlier topic later, topics = earlier ++ topic :: later ∧
        (∀ other ∈ earlier, known.ofTopic other ≠ []) ∧ known.ofTopic topic = [] ∧
        error = .connect ("unknown source topic `" ++ topic ++ "`")) ∧
    (∀ places, readerPlaces known topics = .ok places → LaidOut known topics places) ∧
    ∀ {σ : Type} (broker : Broker σ) (sinks : List String) (state after : σ) (backend : Backend),
      topics ≠ [] → connect broker ⟨topics, sinks⟩ state = (.done backend, after) →
      ∃ told between, broker.listPartitions state = (.done told, between) ∧
        LaidOut told topics (backend.readers.map Reader.place) := by
  have laidOut (known : Partitions) (places : List Place)
      (found : readerPlaces known topics = .ok places) : LaidOut known topics places := by
    obtain ⟨covered, rfl⟩ := (readerPlaces_eq_ok_iff known topics places).mp found
    exact ⟨count_flatMap_placesOf known topics, ⟨_, rfl, forall₂_isBlock known topics⟩,
      nodup_flatMap_placesOf_iff covered⟩
  refine ⟨?_, readerPlaces_eq_error_iff known topics, laidOut known, ?_⟩
  · constructor
    · rintro ⟨places, found⟩
      exact ((readerPlaces_eq_ok_iff known topics places).mp found).1
    · intro covered
      exact ⟨_, (readerPlaces_eq_ok_iff known topics _).mpr ⟨covered, rfl⟩⟩
  · intro σ broker sinks state after backend isNonempty connected
    obtain ⟨told, between, listed, found⟩ :=
      readerPlaces_of_connect broker ⟨topics, sinks⟩ isNonempty connected
    exact ⟨told, between, listed, laidOut told _ found⟩

/-- A broker with a topic of three partitions and one of a single partition. -/
def twoTopics : Logs where
  topics := [
    { name := "questions", logs := [(2, []), (0, []), (1, [])] },
    { name := "feedback", logs := [(0, [])] }]

/-- A backend that reads the two topics, the second one first. -/
def readingBackend : Backend where
  isConnected := true
  readers := [
    { place := { topic := "feedback", partition := 0 }, offset := 0 },
    { place := { topic := "questions", partition := 0 }, offset := 0 },
    { place := { topic := "questions", partition := 1 }, offset := 0 },
    { place := { topic := "questions", partition := 2 }, offset := 0 }]

/-- No topic is listed twice, and each of the four partitions has one reader. -/
theorem connect_twoTopics :
    ∃ after, connect Logs.broker ⟨["feedback", "questions"], []⟩ twoTopics =
        (.done readingBackend, after) ∧
      (readingBackend.readers.map Reader.place).Nodup ∧
      (readingBackend.readers.map Reader.place).count { topic := "questions", partition := 2 } =
        1 := by
  have outcome : (connect Logs.broker ⟨["feedback", "questions"], []⟩ twoTopics).1 =
      .done readingBackend := by cbv
  have connected : connect Logs.broker ⟨["feedback", "questions"], []⟩ twoTopics =
      (.done readingBackend, _) := Prod.ext outcome rfl
  obtain ⟨_, _, _, connects⟩ := readerPlaces_laidOut [] ["feedback", "questions"]
  obtain ⟨told, between, listed, laidOut⟩ :=
    connects Logs.broker [] twoTopics _ _ (by decide) connected
  cases listed
  refine ⟨_, connected, ?_, ?_⟩
  · exact (laidOut.nodup_iff (by decide)).mpr (by decide)
  · rw [laidOut.count_eq]
    decide

/-- A broker with one topic of one partition, without any record. -/
def oneTopic : Logs where
  topics := [{ name := "in", logs := [(0, [])] }]

/-- The same with one record. -/
def oneRecord : Logs :=
  oneTopic.extend { topic := "in", partition := 0 } [some [0x7B, 0x7D]]

/-- A backend that reads the one partition twice. -/
def doubledBackend : Backend where
  isConnected := true
  readers := [
    { place := { topic := "in", partition := 0 }, offset := 0 },
    { place := { topic := "in", partition := 0 }, offset := 0 }]

/-- A list of topics may name one twice, as settings are read. Its partition then has two readers
with offsets of their own, and each record is consumed twice. -/
theorem readerPlaces_listedTwice :
    readItems "in,in" = ["in", "in"] ∧
    readerPlaces [("in", [0])] ["in", "in"] =
      .ok [{ topic := "in", partition := 0 }, { topic := "in", partition := 0 }] ∧
    (connect Logs.broker ⟨["in", "in"], []⟩ oneTopic).1 = .done doubledBackend ∧
    (collect (consume Logs.broker) 2 ⟨doubledBackend, oneRecord⟩).1 =
      .done [[0x7B, 0x7D], [0x7B, 0x7D]] := by
  refine ⟨by decide +kernel, by cbv, by cbv, ?_⟩
  rfl

end PromptRelay.Kafka
