import Mathlib.Data.String.Basic
import PromptRelay.Messenger.Kafka.Backend

/-!
Contract: entries by topic, looked up after a change.

Owns:
- that a change of the entry of a topic is found under that topic, and under no other one;
- that entries in the order of their topics stay so.

Does not own: what the entries stand for.

Entries in order have to be in order for this: a new entry is put in front of the first one of a
later topic, and an entry of the same topic behind that would be hidden.
-/

namespace PromptRelay.Kafka

theorem lookup_cons_eq (topic other : String) (value : α) (entries : List (String × α)) :
    ((topic, value) :: entries).lookup other =
      if other = topic then some value else entries.lookup other := by
  rw [List.lookup_cons]
  by_cases same : other = topic
  · rw [if_pos same, beq_iff_eq.mpr same]
  · rw [if_neg same, beq_eq_false_iff_ne.mpr same]

theorem lookup_alterEntry (topic other : String) (f : Option α → α)
    (entries : List (String × α)) :
    (alterEntry topic f entries).lookup other =
      if other = topic then some (f (entries.lookup topic)) else entries.lookup other := by
  induction entries with
  | nil => exact lookup_cons_eq topic other _ []
  | cons entry entries inductionHypothesis =>
      obtain ⟨name, value⟩ := entry
      rw [alterEntry]
      by_cases found : name = topic
      · subst found
        rw [if_pos rfl, lookup_cons_eq, lookup_cons_eq, lookup_cons_eq, if_pos rfl]
        by_cases same : other = name
        · rw [if_pos same, if_pos same]
        · rw [if_neg same, if_neg same, if_neg same]
      · rw [if_neg found, lookup_cons_eq, lookup_cons_eq, lookup_cons_eq, inductionHypothesis,
          if_neg (Ne.symm found)]
        by_cases same : other = topic
        · rw [if_pos same, if_pos same, if_neg (same ▸ Ne.symm found)]
        · rw [if_neg same, if_neg same]

/-! ## Entries in order -/

/-- The entries are in the order of their topics. -/
abbrev Ascending (entries : List (String × α)) : Prop :=
  entries.Pairwise fun entry later => entry.1 < later.1

theorem mem_alterOrdered {topic : String} {f : Option α → α} {entries : List (String × α)}
    {entry : String × α} (member : entry ∈ alterOrdered topic f entries) :
    entry ∈ entries ∨ entry.1 = topic ∧ ∃ found, entry.2 = f found := by
  induction entries with
  | nil =>
      rw [alterOrdered, List.mem_singleton] at member
      exact .inr ⟨congrArg Prod.fst member, _, congrArg Prod.snd member⟩
  | cons first entries inductionHypothesis =>
      obtain ⟨name, value⟩ := first
      rw [alterOrdered] at member
      by_cases before : topic < name
      · rw [if_pos before] at member
        rcases List.mem_cons.mp member with rfl | old
        · exact .inr ⟨rfl, _, rfl⟩
        · exact .inl old
      · rw [if_neg before] at member
        by_cases same : name = topic
        · rw [if_pos same] at member
          rcases List.mem_cons.mp member with rfl | old
          · exact .inr ⟨same, _, rfl⟩
          · exact .inl (List.mem_cons_of_mem _ old)
        · rw [if_neg same] at member
          rcases List.mem_cons.mp member with rfl | later
          · exact .inl List.mem_cons_self
          · exact (inductionHypothesis later).imp_left (List.mem_cons_of_mem _)

theorem Ascending.alterOrdered {entries : List (String × α)} (ascending : Ascending entries)
    (topic : String) (f : Option α → α) : Ascending (alterOrdered topic f entries) := by
  induction entries with
  | nil => exact List.pairwise_singleton _ _
  | cons first entries inductionHypothesis =>
      obtain ⟨name, value⟩ := first
      obtain ⟨below, others⟩ := List.pairwise_cons.mp ascending
      rw [Kafka.alterOrdered]
      by_cases before : topic < name
      · rw [if_pos before]
        refine .cons ?_ ascending
        intro entry member
        rcases List.mem_cons.mp member with rfl | later
        · exact before
        · exact lt_trans before (below entry later)
      · rw [if_neg before]
        by_cases same : name = topic
        · rw [if_pos same]
          exact .cons below others
        · rw [if_neg same]
          refine .cons ?_ (inductionHypothesis others)
          intro entry member
          rcases mem_alterOrdered member with later | ⟨isTopic, _⟩
          · exact below entry later
          · rw [isTopic]
            exact lt_of_le_of_ne (not_lt.mp before) same

/-- All entries are those of later topics. -/
theorem lookup_eq_none_of_lt {topic : String} {entries : List (String × α)}
    (below : ∀ entry ∈ entries, topic < entry.1) : entries.lookup topic = none := by
  rw [List.lookup_eq_none_iff]
  intro entry member
  exact bne_iff_ne.mpr (ne_of_lt (below entry member))

theorem Ascending.lookup_alterOrdered {entries : List (String × α)}
    (ascending : Ascending entries) (topic other : String) (f : Option α → α) :
    (Kafka.alterOrdered topic f entries).lookup other =
      if other = topic then some (f (entries.lookup topic)) else entries.lookup other := by
  induction entries with
  | nil => exact lookup_cons_eq topic other _ []
  | cons first entries inductionHypothesis =>
      obtain ⟨name, value⟩ := first
      obtain ⟨below, others⟩ := List.pairwise_cons.mp ascending
      rw [Kafka.alterOrdered]
      by_cases before : topic < name
      · have absent : ((name, value) :: entries).lookup topic = none := by
          apply lookup_eq_none_of_lt
          intro entry member
          rcases List.mem_cons.mp member with rfl | later
          · exact before
          · exact lt_trans before (below entry later)
        rw [if_pos before, absent, lookup_cons_eq]
      · rw [if_neg before]
        by_cases found : name = topic
        · subst found
          rw [if_pos rfl, lookup_cons_eq, lookup_cons_eq, lookup_cons_eq, if_pos rfl]
          by_cases same : other = name
          · rw [if_pos same, if_pos same]
          · rw [if_neg same, if_neg same, if_neg same]
        · rw [if_neg found, lookup_cons_eq, lookup_cons_eq, lookup_cons_eq,
            inductionHypothesis others, if_neg (Ne.symm found)]
          by_cases same : other = topic
          · rw [if_pos same, if_pos same, if_neg (same ▸ Ne.symm found)]
          · rw [if_neg same, if_neg same]

end PromptRelay.Kafka
