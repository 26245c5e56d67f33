import PromptRelay.Proofs.Agent.Shape

/-!
Contract: what the calls of a run are made with.

Owns:
- the cycle under way after given calls, and its batch;
- that completions are asked for the prompt of that batch, and that nothing is
  produced but what the completion before it stands for.

Does not own: how a batch is rendered, and how a completion is interpreted.
-/

namespace PromptRelay.Agent

/-- The calls of the cycle under way: the last attempt to consume and what follows. -/
def cycleOf (calls : List Call) : List Call :=
  calls.foldl (fun cycle call =>
    if call.callee = .consumeBatch then [call] else cycle ++ [call]) []

/-- The batch of the cycle under way. -/
def batchOf? (calls : List Call) : Option (List Message) :=
  match cycleOf calls with
  | .consumeBatch (.done batch) :: _ => some batch
  | _ => none

def callsTo (callee : Callee) (calls : List Call) : List Call :=
  calls.filter fun call => call.callee = callee

/-! ## The cycle under way -/

theorem cycleOf_concat (calls : List Call) (call : Call) :
    cycleOf (calls ++ [call]) =
      if call.callee = .consumeBatch then [call] else cycleOf calls ++ [call] := by
  simp only [cycleOf, List.foldl_append, List.foldl_cons, List.foldl_nil]

theorem cycleOf_append (calls rest : List Call)
    (within : ∀ call ∈ rest, call.callee ≠ .consumeBatch) :
    cycleOf (calls ++ rest) = cycleOf calls ++ rest := by
  induction rest generalizing calls with
  | nil => rw [List.append_nil, List.append_nil]
  | cons call rest inductionHypothesis =>
      have more := inductionHypothesis (calls ++ [call])
        (fun other member => within other (by simp [member]))
      rw [cycleOf_concat, if_neg (within call (by simp)), List.append_assoc,
        List.append_assoc] at more
      exact more

/-- A cycle begins with an attempt to consume. -/
theorem cycleOf_append_consumeBatch (calls rest : List Call)
    (outcome : Outcome MessengerError (List Message))
    (within : ∀ call ∈ rest, call.callee ≠ .consumeBatch) :
    cycleOf (calls ++ .consumeBatch outcome :: rest) = .consumeBatch outcome :: rest := by
  have begun : cycleOf (calls ++ [.consumeBatch outcome]) = [.consumeBatch outcome] := by
    rw [cycleOf_concat]
    exact if_pos rfl
  have whole := cycleOf_append (calls ++ [.consumeBatch outcome]) rest within
  rw [begun, List.append_assoc] at whole
  exact whole

section

variable (answers : List Round)

theorem callee_ne_consumeBatch_of_answers :
    ∀ call ∈ answers.flatMap Round.calls, call.callee ≠ .consumeBatch := by
  intro call member
  obtain ⟨round, _, inRound⟩ := List.mem_flatMap.mp member
  simp only [Round.calls, List.mem_cons, List.not_mem_nil, or_false] at inRound
  rcases inRound with rfl | rfl <;> simp [Call.callee]

theorem callsTo_complete_answers :
    callsTo .complete (answers.flatMap Round.calls) =
      answers.map fun round => .complete round.inputs (.done round.reply) := by
  induction answers with
  | nil => rfl
  | cons round answers inductionHypothesis =>
      simpa [callsTo, Round.calls, Call.callee] using inductionHypothesis

theorem callsTo_produce_answers :
    callsTo .produce (answers.flatMap Round.calls) =
      answers.map fun round => .produce round.message (.done ()) := by
  induction answers with
  | nil => rfl
  | cons round answers inductionHypothesis =>
      simpa [callsTo, Round.calls, Call.callee] using inductionHypothesis

end

/-! ## What calls are made with -/

section

variable {agent : Agent σ} {entries : List Entry}

/-- Completions are asked for the prompt of the batch under way. -/
theorem CyclesSoFar.of_asking {batch : List Message} {prompt : Prompt} {rounds : Nat}
    (soFar : CyclesSoFar agent entries (.asking batch prompt rounds)) :
    batchOf? (entries.map Entry.call) = some batch ∧
      agent.renderer.render batch = .ok prompt := by
  obtain ⟨cycles, part, calls, _, situated⟩ := soFar
  cases situated with
  | asking answers rendered _ =>
      refine ⟨?_, rendered⟩
      rw [calls, batchOf?, cycleOf_append_consumeBatch _ _ _
        (callee_ne_consumeBatch_of_answers answers)]

/-- Before an answer is produced, as many answers have been produced in its cycle as
there were completions before its own. -/
theorem CyclesSoFar.of_producing {batch : List Message} {rounds : Nat} {message : Message}
    (soFar : CyclesSoFar agent entries (.producing batch rounds message)) :
    ∃ prompt reply,
      batchOf? (entries.map Entry.call) = some batch ∧
      agent.renderer.render batch = .ok prompt ∧
      interpret prompt.operator reply batch = .ok (some message) ∧
      ∃ earlier, callsTo .complete (cycleOf (entries.map Entry.call)) =
          earlier ++ [.complete prompt.inputs (.done reply)] ∧
        (callsTo .produce (cycleOf (entries.map Entry.call))).length = earlier.length ∧
        (entries.map Entry.call).getLast? = some (.complete prompt.inputs (.done reply)) := by
  obtain ⟨cycles, part, calls, _, situated⟩ := soFar
  cases situated with
  | @producing _ prompt _ reply _ answers rendered _ meant =>
      have within : ∀ call ∈ answers.flatMap Round.calls ++
          [.complete prompt.inputs (.done reply)], call.callee ≠ .consumeBatch := by
        intro call member
        rcases List.mem_append.mp member with inAnswers | last
        · exact callee_ne_consumeBatch_of_answers answers call inAnswers
        · rw [List.mem_singleton.mp last]
          simp [Call.callee]
      have underWay := cycleOf_append_consumeBatch cycles.flatten _ (.done batch) within
      refine ⟨prompt, reply, ?_, rendered, meant,
        answers.map fun round => .complete round.inputs (.done round.reply), ?_, ?_, ?_⟩
      · rw [calls, batchOf?, underWay]
      · rw [calls, underWay, ← callsTo_complete_answers]
        simp [callsTo, Call.callee]
      · rw [calls, underWay]
        have produced := congrArg List.length (callsTo_produce_answers answers)
        simpa [callsTo, Call.callee] using produced
      · rw [calls, ← List.cons_append, ← List.append_assoc, List.getLast?_concat]

end

/-- Whenever completions are asked for, it is with the inputs of the prompt that the
batch of the cycle renders to. Whenever a message is produced, it is what the last
completion stands for by that prompt and that batch; and this completion has the
same place among those of its cycle as the message has among what its cycle
produces. -/
theorem calls_dataFlow (agent : Agent σ) (count : Nat) (state : σ)
    (earlier later : List Call) (call : Call)
    (made : agent.calls count state = earlier ++ call :: later) :
    (∀ inputs outcome, call = .complete inputs outcome →
      ∃ batch prompt,
        batchOf? earlier = some batch ∧
        agent.renderer.render batch = .ok prompt ∧
        inputs = prompt.inputs) ∧
    ∀ message outcome, call = .produce message outcome →
      ∃ batch prompt reply,
        batchOf? earlier = some batch ∧
        agent.renderer.render batch = .ok prompt ∧
        interpret prompt.operator reply batch = .ok (some message) ∧
        earlier.getLast? = some (.complete prompt.inputs (.done reply)) ∧
        (callsTo .complete (cycleOf earlier))[(callsTo .produce (cycleOf earlier)).length]? =
          some (.complete prompt.inputs (.done reply)) ∧
        (callsTo .complete (cycleOf earlier)).length =
          (callsTo .produce (cycleOf earlier)).length + 1 := by
  obtain ⟨before, rest, noted, rfl, others⟩ := List.map_eq_append_iff.mp made
  obtain ⟨entry, after, rfl, rfl, rfl⟩ := List.map_eq_cons_iff.mp others
  obtain ⟨_, _, _, course, next, _, _⟩ := agent.exists_next_of_entries count state noted
  have soFar := course.cyclesSoFar
  constructor
  · intro inputs outcome same
    cases next <;> cases same
    obtain ⟨underWay, rendered⟩ := soFar.of_asking
    exact ⟨_, _, underWay, rendered, rfl⟩
  · intro message outcome same
    cases next <;> cases same
    obtain ⟨prompt, reply, underWay, rendered, meant, completions, asked, produced, last⟩ :=
      soFar.of_producing
    refine ⟨_, prompt, reply, underWay, rendered, meant, last, ?_, ?_⟩
    · rw [asked, produced]
      exact List.getElem?_concat_length
    · rw [asked, produced, List.length_append, List.length_singleton]

def twoReplies : Rehearsal.Stage where
  batches := [{ outcome := .done [] }]
  completions := [{ outcome := .done (some (.assistant " one")) },
    { outcome := .done (some (.assistant "two ")) }]
  flushesLeft := some 1

theorem calls_twoReplies :
    twiceAgent.calls 1 twoReplies =
      [.consumeBatch (.done []),
        .complete [] (.done (some (.assistant " one"))), .produce (.assistant "one") (.done ()),
        .complete [] (.done (some (.assistant "two ")))] ++
        .produce (.assistant "two") (.done ()) :: [.flush (.done ()), .terminate (.done ())] := by
  decide +kernel

/-- What is produced last in that run is what the second completion stands for. -/
theorem dataFlow_twoReplies :
    ∃ earlier later,
      twiceAgent.calls 1 twoReplies =
        earlier ++ .produce (.assistant "two") (.done ()) :: later ∧
      ∃ batch prompt reply,
        batchOf? earlier = some batch ∧
        (textRenderer "inputs: []").render batch = .ok prompt ∧
        interpret prompt.operator reply batch = .ok (some (.assistant "two")) ∧
        earlier.getLast? = some (.complete prompt.inputs (.done reply)) ∧
        (callsTo .complete (cycleOf earlier))[(callsTo .produce (cycleOf earlier)).length]? =
          some (.complete prompt.inputs (.done reply)) ∧
        (callsTo .complete (cycleOf earlier)).length =
          (callsTo .produce (cycleOf earlier)).length + 1 :=
  ⟨_, _, calls_twoReplies,
    (calls_dataFlow twiceAgent 1 twoReplies _ _ _ calls_twoReplies).2 _ _ rfl⟩

end PromptRelay.Agent
