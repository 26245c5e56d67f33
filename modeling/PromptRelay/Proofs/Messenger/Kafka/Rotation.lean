import PromptRelay.Proofs.Messenger.Kafka.Coverage
import PromptRelay.Proofs.Messenger.Kafka.Entries

/-!
Contract: which partitions deliveries go to.

Owns:
- the partitions that are chosen for deliveries one after the other, to whatever topics;
- how often a partition has been chosen for a topic, as the backend counts it;
- that the deliveries to a topic take its partitions in turn, whatever goes to other topics in
  between.

Does not own: what is delivered, and whether a delivery succeeds.

A choice changes the count of its own topic and of no other one, and only if that has partitions.
From what one choice does to a count, the choices for a topic are read off by induction on all
choices: each takes the partition at the number of the choices for the topic before it.
-/

namespace PromptRelay.Kafka

/-! ## Counts -/

/-- How often a partition has been chosen for a topic. -/
def Backend.countOf (backend : Backend) (topic : String) : Nat :=
  (backend.counters.lookup topic).getD 0

/-- The partition at a count, if all partitions are taken in turn. -/
def partitionAt (partitions : List Nat) (count : Nat) : Nat :=
  partitions.getD (count % partitions.length) defaultPartition

theorem partitionAt_eq {partitions : List Nat} (isNonempty : partitions ≠ []) (count : Nat) :
    some (partitionAt partitions count) = partitions[count % partitions.length]? := by
  have inside : count % partitions.length < partitions.length :=
    Nat.mod_lt _ (List.length_pos_of_ne_nil isNonempty)
  rw [partitionAt, List.getD_eq_getElem _ _ inside, List.getElem?_eq_getElem inside]

/-! ## One choice -/

section

variable {backend : Backend} {topic : String}

/-- Nothing is counted for a topic without partitions. -/
theorem nextPartition_of_none (none : backend.partitions.ofTopic topic = []) :
    nextPartition topic backend = (defaultPartition, backend) := by
  unfold nextPartition
  split
  case h_1 first others known => simp [Partitions.ofTopic, known] at none
  case h_2 => rfl

theorem nextPartition_of_some (some : backend.partitions.ofTopic topic ≠ []) :
    nextPartition topic backend =
      (partitionAt (backend.partitions.ofTopic topic) (backend.countOf topic),
        { backend with
          counters := alterEntry topic (fun _ => (backend.countOf topic + 1) % Word.limit)
            backend.counters }) := by
  unfold nextPartition
  split
  case h_1 first others known => simp only [Partitions.ofTopic, known, Option.getD_some]; rfl
  case h_2 unknown =>
      exfalso
      apply some
      rw [Partitions.ofTopic]
      cases known : backend.partitions.lookup topic with
      | none => rfl
      | some partitions =>
          cases partitions with
          | nil => rfl
          | cons first others => exact absurd known (unknown first others)

theorem nextPartition_fst (backend : Backend) (topic : String) :
    (nextPartition topic backend).1 =
      partitionAt (backend.partitions.ofTopic topic) (backend.countOf topic) := by
  by_cases none : backend.partitions.ofTopic topic = []
  · rw [nextPartition_of_none none, none]
    rfl
  · rw [nextPartition_of_some none]

theorem partitions_nextPartition (backend : Backend) (topic : String) :
    (nextPartition topic backend).2.partitions = backend.partitions := by
  by_cases none : backend.partitions.ofTopic topic = []
  · rw [nextPartition_of_none none]
  · rw [nextPartition_of_some none]

theorem countOf_nextPartition_other (backend : Backend) {other : String}
    (differs : other ≠ topic) :
    (nextPartition topic backend).2.countOf other = backend.countOf other := by
  by_cases none : backend.partitions.ofTopic topic = []
  · rw [nextPartition_of_none none]
  · rw [nextPartition_of_some none, Backend.countOf, lookup_alterEntry, if_neg differs,
      Backend.countOf]

theorem countOf_nextPartition_same (some : backend.partitions.ofTopic topic ≠ []) :
    (nextPartition topic backend).2.countOf topic = (backend.countOf topic + 1) % Word.limit := by
  rw [nextPartition_of_some some, Backend.countOf, lookup_alterEntry, if_pos rfl, Option.getD_some]

end

/-! ## Choices one after the other -/

/-- The partitions that are chosen for deliveries to these topics, one after the other. -/
def choices : (topics : List String) → Backend → List Place
  | [], _ => []
  | topic :: topics, backend =>
    { topic, partition := (nextPartition topic backend).1 } ::
      choices topics (nextPartition topic backend).2

/-- Those among them that are for one topic. -/
def chosenFor (topic : String) (places : List Place) : List Nat :=
  (places.filter fun place => place.topic = topic).map Place.partition

/-- A topic has the partition at each of its counts, up to the size of a word. -/
theorem chosenFor_choices (topic : String) (topics : List String) (backend : Backend)
    (counted : backend.countOf topic < Word.limit) :
    chosenFor topic (choices topics backend) =
      (List.range (topics.count topic)).map fun call =>
        partitionAt (backend.partitions.ofTopic topic)
          ((backend.countOf topic + call) % Word.limit) := by
  induction topics generalizing backend with
  | nil => rfl
  | cons next topics inductionHypothesis =>
      have samePartitions := partitions_nextPartition backend next
      by_cases same : next = topic
      · subst same
        have chosen : chosenFor next (choices (next :: topics) backend) =
            partitionAt (backend.partitions.ofTopic next) (backend.countOf next) ::
              chosenFor next (choices topics (nextPartition next backend).2) := by
          simp [choices, chosenFor, nextPartition_fst]
        rw [chosen, List.count_cons_self, List.range_succ_eq_map, List.map_cons, List.map_map,
          Nat.add_zero, Nat.mod_eq_of_lt counted]
        by_cases none : backend.partitions.ofTopic next = []
        · -- Without partitions the count stands still, but then it does not matter either.
          rw [nextPartition_of_none none, inductionHypothesis backend counted, none]
          rfl
        · have advanced := countOf_nextPartition_same none
          rw [inductionHypothesis _ (advanced ▸ Nat.mod_lt _ (by decide)), samePartitions,
            advanced]
          congr 2
          funext call
          rw [Nat.mod_add_mod, Nat.add_right_comm, Function.comp_apply, Nat.succ_eq_add_one,
            Nat.add_assoc]
      · have chosen : chosenFor topic (choices (next :: topics) backend) =
            chosenFor topic (choices topics (nextPartition next backend).2) := by
          simp [choices, chosenFor, same]
        have still := countOf_nextPartition_other backend (Ne.symm same)
        rw [chosen, inductionHypothesis _ (still ▸ counted), samePartitions, still,
          List.count_cons_of_ne same]

/-- A backend that has not counted yet gives a topic the partition at each of its calls. -/
theorem chosenFor_unused {fresh : Backend} (unused : fresh.counters = []) (topic : String)
    (topics : List String) :
    chosenFor topic (choices topics fresh) =
      (List.range (topics.count topic)).map fun call =>
        partitionAt (fresh.partitions.ofTopic topic) (call % Word.limit) := by
  have nothing : fresh.countOf topic = 0 := by
    rw [Backend.countOf, unused]
    rfl
  rw [chosenFor_choices topic topics fresh (nothing ▸ by decide), nothing]
  simp only [Nat.zero_add]

theorem getElem?_chosenFor {fresh : Backend} (unused : fresh.counters = []) (topic : String)
    (topics : List String) {call : Nat} (made : call < topics.count topic)
    (fits : call < Word.limit) :
    (chosenFor topic (choices topics fresh))[call]? =
      some (partitionAt (fresh.partitions.ofTopic topic) call) := by
  rw [chosenFor_unused unused, List.getElem?_map, List.getElem?_range made, Option.map_some,
    Nat.mod_eq_of_lt fits]

theorem length_chosenFor {fresh : Backend} (unused : fresh.counters = []) (topic : String)
    (topics : List String) :
    (chosenFor topic (choices topics fresh)).length = topics.count topic := by
  rw [chosenFor_unused unused, List.length_map, List.length_range]

/-- As many calls in a row as there are partitions take all of them, from where they begin. -/
theorem take_drop_chosenFor {fresh : Backend} (unused : fresh.counters = []) (topic : String)
    (topics : List String) {call : Nat}
    (made : call + (fresh.partitions.ofTopic topic).length ≤ topics.count topic)
    (fits : call + (fresh.partitions.ofTopic topic).length ≤ Word.limit) :
    ((chosenFor topic (choices topics fresh)).drop call).take
        (fresh.partitions.ofTopic topic).length =
      (fresh.partitions.ofTopic topic).rotate call := by
  have length := length_chosenFor unused topic topics
  apply List.ext_getElem?
  intro index
  by_cases inside : index < (fresh.partitions.ofTopic topic).length
  · have isNonempty := List.ne_nil_of_length_pos (Nat.zero_lt_of_lt inside)
    rw [List.getElem?_take_of_lt inside, List.getElem?_drop,
      getElem?_chosenFor unused topic topics (by omega) (by omega), partitionAt_eq isNonempty,
      List.getElem?_rotate inside, Nat.add_comm]
  · have beyond := Nat.le_of_not_lt inside
    rw [List.getElem?_eq_none, List.getElem?_eq_none]
    · rwa [List.length_rotate]
    · rw [List.length_take, List.length_drop]
      omega

/-- A connection begins without any counts. -/
theorem counters_of_connect {σ : Type} (broker : Broker σ) (topics : Topics) {state after : σ}
    {backend : Backend} (connected : connect broker topics state = (.done backend, after)) :
    backend.counters = [] := by
  rcases eq_of_connect broker connected with rfl | ⟨_, _, rfl⟩
  · rfl
  · rfl

/-! ## Summary -/

/-- Deliveries to a topic take its partitions in turn. From a backend that has not counted yet,
the choice at a call, counted among those for the same topic, is the partition at the number of
that call modulo the number of partitions, as long as the count fits in a word. As many calls in
a row as there are partitions therefore take each position once: what they choose is the list of
partitions, rotated to where they begin. Calls for other topics make no difference. A topic that
has no partitions, or is not known, always gets the default partition, and nothing is counted. -/
theorem choices_rotate (fresh : Backend) (unused : fresh.counters = []) (topics : List String)
    (topic : String) :
    let partitions := fresh.partitions.ofTopic topic
    let chosen := chosenFor topic (choices topics fresh)
    chosen.length = topics.count topic ∧
    (partitions ≠ [] → ∀ call < chosen.length, call < Word.limit →
      chosen[call]? = partitions[call % partitions.length]?) ∧
    (∀ call, call + partitions.length ≤ chosen.length →
      call + partitions.length ≤ Word.limit →
      (chosen.drop call).take partitions.length = partitions.rotate call) ∧
    (∀ others : List String, others.count topic = topics.count topic →
      chosenFor topic (choices others fresh) = chosen) ∧
    (partitions = [] →
      (∀ partition ∈ chosen, partition = defaultPartition) ∧
      ∀ backend : Backend, backend.partitions = fresh.partitions →
        nextPartition topic backend = (defaultPartition, backend)) := by
  intro partitions chosen
  have chosen_eq := fun topics => chosenFor_unused unused topic topics
  have length : chosen.length = topics.count topic := length_chosenFor unused topic topics
  refine ⟨length, ?_, ?_, ?_, ?_⟩
  · intro isNonempty call made fits
    rw [getElem?_chosenFor unused topic topics (length ▸ made) fits, partitionAt_eq isNonempty]
  · intro call made fits
    exact take_drop_chosenFor unused topic topics (length ▸ made) fits
  · intro others same
    rw [chosen_eq others, same, ← chosen_eq topics]
  · intro none
    constructor
    · intro partition member
      rw [show chosen = _ from chosen_eq topics, show fresh.partitions.ofTopic topic = [] from none]
        at member
      obtain ⟨_, _, rfl⟩ := List.mem_map.mp member
      rfl
    · intro backend same
      exact nextPartition_of_none (same ▸ none)

/-- A broker with a topic of three partitions and one of a single partition. -/
def answerTopics : Logs where
  topics := [
    { name := "answers", logs := [(0, []), (1, []), (2, [])] },
    { name := "audit", logs := [(0, [])] }]

/-- A backend that writes to both, and to a topic that is not known. -/
def writingBackend : Backend where
  isConnected := true
  sinks := ["answers", "audit", "unlisted"]
  partitions := [("answers", [0, 1, 2]), ("audit", [0])]

/-- Among deliveries to other topics, the second to the fourth one to a topic of three partitions
take all of them, beginning with the second. -/
theorem choices_writingBackend :
    ∃ after, connect Logs.broker ⟨[], ["answers", "audit", "unlisted"]⟩ answerTopics =
        (.done writingBackend, after) ∧
      ((chosenFor "answers" (choices
        ["answers", "audit", "answers", "unlisted", "answers", "audit", "answers"]
        writingBackend)).drop 1).take 3 = [1, 2, 0] := by
  have connected : connect Logs.broker ⟨[], ["answers", "audit", "unlisted"]⟩ answerTopics =
      (.done writingBackend, _) := rfl
  obtain ⟨length, _, windows, _⟩ := choices_rotate writingBackend
    (counters_of_connect Logs.broker _ connected)
    ["answers", "audit", "answers", "unlisted", "answers", "audit", "answers"] "answers"
  exact ⟨_, connected, windows 1 (length ▸ by decide) (by decide)⟩

end PromptRelay.Kafka
