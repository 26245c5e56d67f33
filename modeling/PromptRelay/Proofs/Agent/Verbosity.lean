import Mathlib.Data.List.Basic
import PromptRelay.Proofs.Agent.Failure
import PromptRelay.Proofs.Agent.Ledger
import PromptRelay.Startup

/-!
Contract: what a verbose agent does that another one does not.

Owns:
- the journal of a run, that is, its calls and its reports in one order;
- surroundings that do not hear reports;
- that runs of agents which differ in being verbose come to the same and make the same calls, and
  what the journal of one has more than that of the other.

Does not own: where reports go to.

Both runs are followed side by side. As long as their surroundings differ in nothing but what has
been reported, each call comes to the same in both, and asking for a completion is the only step
after which their journals differ in one report more.
-/

namespace PromptRelay.Agent

open PromptRelay.Action (Similar)

/-! ## Journals -/

/-- What happens in a run. -/
inductive Incident where
  | called (entry : Entry)
  | told (report : Report)
deriving DecidableEq, Repr

namespace Incident

def entry? : Incident → Option Entry
  | .called entry => some entry
  | .told _ => none

/-- The incident, and the report of its content if it brings a completion. -/
def withContent : Incident → List Incident
  | .called ⟨.complete inputs (.done (some completion)), isCancelled⟩ =>
    [.called ⟨.complete inputs (.done (some completion)), isCancelled⟩,
      .told (.generated completion.content)]
  | incident => [incident]

end Incident

/-- A state, and what has happened until then. -/
structure Journal (σ : Type) where
  state : σ
  incidents : List Incident := []

/-- Performs a step and writes it down as a call. -/
def writing (agent : Agent σ) (call : Outcome ε α → Call) (action : Action ε σ α) :
    Action ε (Journal σ) α := fun journal =>
  let result := action journal.state
  let entry : Entry := { call := call result.1, isCancelled := agent.isCancelled result.2 }
  (result.1, { state := result.2, incidents := journal.incidents ++ [.called entry] })

/-- The agent that also writes down its calls and its reports. -/
def journaled (agent : Agent σ) : Agent (Journal σ) where
  messenger := {
    sourceMinimum := agent.messenger.sourceMinimum
    consume := agent.messenger.consume.onPart Journal.state
      fun state journal => { journal with state }
    consumeBatch := agent.writing .consumeBatch agent.messenger.consumeBatch
    produce message := agent.writing (.produce message) (agent.messenger.produce message)
    flush := agent.writing .flush agent.messenger.flush
    terminate := agent.writing .terminate agent.messenger.terminate }
  complete inputs := agent.writing (.complete inputs) (agent.complete inputs)
  backendName := agent.backendName
  renderer := agent.renderer
  sinkMinimum := agent.sinkMinimum
  isVerbose := agent.isVerbose
  isCancelled journal := agent.isCancelled journal.state
  report told journal :=
    { state := agent.report told journal.state, incidents := journal.incidents ++ [.told told] }
  isCancelled_report told journal := agent.isCancelled_report told journal.state

/-- What happens in a run, in order. -/
def journal (agent : Agent σ) (count : Nat) (state : σ) : List Incident :=
  (agent.journaled.run count { state }).2.incidents

/-- A journal has the calls of a recording. -/
structure Covers (journal : Journal σ) (recording : Recording σ) : Prop where
  state_eq : journal.state = recording.state
  entries_eq : journal.incidents.filterMap Incident.entry? = recording.entries

theorem writing_similar (agent : Agent σ) (call : Outcome ε α → Call) (action : Action ε σ α) :
    Similar Covers (agent.writing call action) (agent.noting call action) := by
  rintro ⟨state, incidents⟩ ⟨_, _⟩ ⟨rfl, rfl⟩
  refine ⟨rfl, rfl, ?_⟩
  exact List.filterMap_append

theorem journaled_simulation (agent : Agent σ) :
    Simulation agent.journaled agent.recorded Covers where
  renderer := rfl
  backendName := rfl
  sinkMinimum := rfl
  isVerbose := rfl
  isCancelled _ _ covers := congrArg agent.isCancelled covers.state_eq
  report told journal recording covers := by
    refine ⟨congrArg (agent.report told) covers.state_eq, ?_⟩
    exact (List.filterMap_append).trans ((List.append_nil _).trans covers.entries_eq)
  consumeBatch := agent.writing_similar _ _
  produce _ := agent.writing_similar _ _
  flush := agent.writing_similar _ _
  terminate := agent.writing_similar _ _
  complete _ := agent.writing_similar _ _

theorem journaled_run (agent : Agent σ) (count : Nat) (state : σ) :
    (agent.journaled.run count { state }).1 = (agent.run count state).1 ∧
      (agent.journaled.run count { state }).2.state = (agent.run count state).2 ∧
      (agent.journal count state).filterMap Incident.entry? = agent.entries count state := by
  obtain ⟨journaled, covers⟩ :=
    agent.journaled_simulation.run count { state } { state } ⟨rfl, rfl⟩
  obtain ⟨recorded, isOf⟩ := agent.recorded_simulation.run count { state } state rfl
  exact ⟨journaled.trans recorded, covers.state_eq.trans isOf, covers.entries_eq⟩

/-! ## Surroundings that do not hear -/

/-- Two states are the same but for what has been reported. -/
def Alike (rest : σ → β) (left right : σ) : Prop := rest left = rest right

/-- Reports change nothing in the rest of the state, and what the surroundings do depends on that
rest only. -/
structure IsUnheard (agent : Agent σ) (rest : σ → β) : Prop where
  report : ∀ told state, rest (agent.report told state) = rest state
  isCancelled : ∀ left right, Alike rest left right →
    agent.isCancelled left = agent.isCancelled right
  consumeBatch : Similar (Alike rest) agent.messenger.consumeBatch agent.messenger.consumeBatch
  produce : ∀ message,
    Similar (Alike rest) (agent.messenger.produce message) (agent.messenger.produce message)
  flush : Similar (Alike rest) agent.messenger.flush agent.messenger.flush
  terminate : Similar (Alike rest) agent.messenger.terminate agent.messenger.terminate
  complete : ∀ inputs, Similar (Alike rest) (agent.complete inputs) (agent.complete inputs)

theorem similar_id (action : Action ε σ α) : Similar (Alike id) action action := by
  rintro state _ rfl
  exact ⟨rfl, rfl⟩

/-- Nothing hears reports that leave no trace in the state. -/
theorem isUnheard_of_traceless (agent : Agent σ)
    (traceless : ∀ told state, agent.report told state = state) : agent.IsUnheard id where
  report := traceless
  isCancelled _ _ same := congrArg agent.isCancelled same
  consumeBatch := similar_id _
  produce _ := similar_id _
  flush := similar_id _
  terminate := similar_id _
  complete _ := similar_id _

/-! ## Two runs side by side -/

/-- The same agent, verbose. -/
def verbose (agent : Agent σ) : Agent σ :=
  { agent with isVerbose := true }

/-- The same agent, not verbose. -/
def quiet (agent : Agent σ) : Agent σ :=
  { agent with isVerbose := false }

/-- The journals of a quiet and of a verbose agent that have come equally far. -/
structure Parallel (rest : σ → β) (quiet verbose : Journal σ) : Prop where
  alike : Alike rest quiet.state verbose.state
  withoutContents : ∀ content, Incident.told (.generated content) ∉ quiet.incidents
  incidents_eq : verbose.incidents = quiet.incidents.flatMap Incident.withContent

section

variable {agent : Agent σ} {rest : σ → β}

/-- Both journals go on with the same incident, and the verbose one with what it brings. -/
theorem Parallel.concat {quiet verbose : Journal σ} (parallel : Parallel rest quiet verbose)
    {quietState verboseState : σ} (alike : Alike rest quietState verboseState)
    (incident : Incident) (other : ∀ content, incident ≠ .told (.generated content)) :
    Parallel rest { state := quietState, incidents := quiet.incidents ++ [incident] }
      { state := verboseState, incidents := verbose.incidents ++ incident.withContent } where
  alike := alike
  withoutContents := by
    intro content member
    rcases List.mem_append.mp member with earlier | last
    · exact parallel.withoutContents content earlier
    · exact other content (List.mem_singleton.mp last).symm
  incidents_eq := by
    rw [parallel.incidents_eq, List.flatMap_append, List.flatMap_singleton]

/-- A call that both make comes to the same in both. -/
theorem IsUnheard.writing (isUnheard : agent.IsUnheard rest) {action : Action ε σ α}
    (similar : Similar (Alike rest) action action) (call : Outcome ε α → Call)
    {quiet verbose : Journal σ} (parallel : Parallel rest quiet verbose) :
    ∃ outcome isCancelled quietState verboseState,
      Alike rest quietState verboseState ∧
      agent.quiet.writing call action quiet =
        (outcome, ⟨quietState, quiet.incidents ++ [.called ⟨call outcome, isCancelled⟩]⟩) ∧
      agent.verbose.writing call action verbose =
        (outcome, ⟨verboseState, verbose.incidents ++ [.called ⟨call outcome, isCancelled⟩]⟩) := by
  obtain ⟨same, alike⟩ := similar _ _ parallel.alike
  have cancelled := isUnheard.isCancelled _ _ alike
  have verboseCall : agent.verbose.writing call action verbose =
      ((action verbose.state).1, ⟨(action verbose.state).2, verbose.incidents ++
        [.called ⟨call (action verbose.state).1, agent.isCancelled (action verbose.state).2⟩]⟩) :=
    rfl
  rw [← same, ← cancelled] at verboseCall
  exact ⟨_, _, _, _, alike, rfl, verboseCall⟩

theorem IsUnheard.writing_similar (isUnheard : agent.IsUnheard rest) {action : Action ε σ α}
    (similar : Similar (Alike rest) action action) {call : Outcome ε α → Call}
    (plain : ∀ outcome isCancelled, Incident.withContent (.called ⟨call outcome, isCancelled⟩) =
      [.called ⟨call outcome, isCancelled⟩]) :
    Similar (Parallel rest) (agent.quiet.writing call action)
      (agent.verbose.writing call action) := by
  intro quiet verbose parallel
  obtain ⟨outcome, isCancelled, _, _, alike, quietCall, verboseCall⟩ :=
    isUnheard.writing similar call parallel
  have onward := parallel.concat alike (.called ⟨call outcome, isCancelled⟩) (by nofun)
  rw [plain] at onward
  rw [quietCall, verboseCall]
  exact ⟨rfl, onward⟩

/-- After the call, only the verbose agent goes on to report the completion. -/
theorem IsUnheard.consult_similar (isUnheard : agent.IsUnheard rest) (inputs : List Message) :
    Similar (Parallel rest) (agent.quiet.journaled.consult inputs)
      (agent.verbose.journaled.consult inputs) := by
  intro quiet verbose parallel
  obtain ⟨outcome, isCancelled, quietState, verboseState, alike, quietCall, verboseCall⟩ :=
    isUnheard.writing (isUnheard.complete inputs) (.complete inputs) parallel
  have quietCompletes : agent.quiet.journaled.complete inputs quiet = _ := quietCall
  have verboseCompletes : agent.verbose.journaled.complete inputs verbose = _ := verboseCall
  have onward := parallel.concat alike (.called ⟨.complete inputs outcome, isCancelled⟩) (by nofun)
  simp only [consult, Action.bind_apply, Action.mapError, quietCompletes, verboseCompletes]
  cases outcome with
  | failed error => exact ⟨rfl, onward⟩
  | halted halt => exact ⟨rfl, onward⟩
  | done completion =>
      cases completion with
      | none => exact ⟨rfl, onward⟩
      | some completion =>
          refine ⟨rfl, ?_, onward.withoutContents, ?_⟩
          · exact alike.trans (isUnheard.report _ _).symm
          · exact (List.append_assoc _ _ _).trans onward.incidents_eq

theorem IsUnheard.correspondence (isUnheard : agent.IsUnheard rest) :
    Correspondence agent.quiet.journaled agent.verbose.journaled (Parallel rest) where
  renderer := rfl
  backendName := rfl
  sinkMinimum := rfl
  isCancelled _ _ parallel := isUnheard.isCancelled _ _ parallel.alike
  report told other quiet verbose parallel := by
    have alike : Alike rest (agent.report told quiet.state) (agent.report told verbose.state) := by
      rw [Alike, isUnheard.report, isUnheard.report]
      exact parallel.alike
    refine parallel.concat alike (.told told) ?_
    intro content same
    exact other content (Incident.told.inj same)
  consumeBatch := isUnheard.writing_similar isUnheard.consumeBatch fun _ _ => rfl
  produce message := isUnheard.writing_similar (isUnheard.produce message) fun _ _ => rfl
  flush := isUnheard.writing_similar isUnheard.flush fun _ _ => rfl
  terminate := isUnheard.writing_similar isUnheard.terminate fun _ _ => rfl
  consult := isUnheard.consult_similar

end

/-! ## Whole runs -/

theorem filterMap_entry?_withContent (incident : Incident) :
    incident.withContent.filterMap Incident.entry? = incident.entry?.toList := by
  unfold Incident.withContent
  split
  · rfl
  · cases incident <;> rfl

theorem filterMap_entry?_flatMap (incidents : List Incident) :
    (incidents.flatMap Incident.withContent).filterMap Incident.entry? =
      incidents.filterMap Incident.entry? := by
  rw [List.filterMap_flatMap]
  simp only [filterMap_entry?_withContent]
  exact (List.filterMap_eq_flatMap_toList _ _).symm

/-- What the runs of a quiet and of a verbose agent have in common, and how they differ. -/
structure DifferInContents (rest : σ → β) (quiet verbose : Agent σ) (count : Nat) (state : σ) :
    Prop where
  outcome_eq : (verbose.run count state).1 = (quiet.run count state).1
  rest_eq : rest (verbose.run count state).2 = rest (quiet.run count state).2
  entries_eq : verbose.entries count state = quiet.entries count state
  withoutContents : ∀ content, Incident.told (.generated content) ∉ quiet.journal count state
  journal_eq : verbose.journal count state =
    (quiet.journal count state).flatMap Incident.withContent

theorem IsUnheard.differInContents {agent : Agent σ} {rest : σ → β}
    (isUnheard : agent.IsUnheard rest) (count : Nat) (state : σ) :
    DifferInContents rest agent.quiet agent.verbose count state := by
  obtain ⟨sameOutcome, parallel⟩ :=
    isUnheard.correspondence.run count { state } { state } ⟨rfl, nofun, rfl⟩
  obtain ⟨quietOutcome, quietState, quietEntries⟩ := agent.quiet.journaled_run count state
  obtain ⟨verboseOutcome, verboseState, verboseEntries⟩ := agent.verbose.journaled_run count state
  have journal_eq : agent.verbose.journal count state =
      (agent.quiet.journal count state).flatMap Incident.withContent := parallel.incidents_eq
  have rest_eq := parallel.alike
  rw [Alike, quietState, verboseState] at rest_eq
  exact {
    outcome_eq := by rw [← quietOutcome, ← verboseOutcome, sameOutcome]
    rest_eq := rest_eq.symm
    entries_eq := by rw [← quietEntries, ← verboseEntries, journal_eq, filterMap_entry?_flatMap]
    withoutContents := parallel.withoutContents
    journal_eq := journal_eq }

end PromptRelay.Agent

/-! ## Scripts -/

namespace PromptRelay.Rehearsal

open PromptRelay.Agent (Alike IsUnheard DifferInContents)
open PromptRelay.Action (Similar)

namespace Stage

/-- A stage but for what has happened on it. -/
def withoutEvents (stage : Stage) : Stage :=
  { stage with events := [] }

/-- A step does the same whatever has happened before. -/
abbrev IsOblivious (action : Action ε Stage α) : Prop :=
  Similar (Alike withoutEvents) action action

theorem exists_events {left right : Stage} (alike : Alike withoutEvents left right) :
    ∃ events, right = { left with events } :=
  ⟨right.events, (congrArg (fun stage => { stage with events := right.events }) alike).symm⟩

theorem play_isOblivious (cue : Cue ε α) : IsOblivious (play cue) := by
  intro left right alike
  obtain ⟨events, rfl⟩ := exists_events alike
  unfold play
  cases cue.cancels with
  | true => exact ⟨rfl, rfl⟩
  | false => exact ⟨rfl, rfl⟩

theorem playEnding_isOblivious (nothing : α) : IsOblivious (ε := ε) (playEnding nothing) := by
  intro left right alike
  obtain ⟨events, rfl⟩ := exists_events alike
  cases left with
  | mk _ _ _ _ _ _ ending =>
      cases ending with
      | exhausted => exact ⟨rfl, rfl⟩
      | cancelling => exact ⟨rfl, rfl⟩

theorem consumeBatch_isOblivious : IsOblivious consumeBatch := by
  intro left right alike
  obtain ⟨events, rfl⟩ := exists_events alike
  cases left with
  | mk batches =>
      cases batches with
      | cons cue batches => exact play_isOblivious cue _ _ rfl
      | nil => exact playEnding_isOblivious [] _ _ rfl

theorem consumePayload_isOblivious : IsOblivious consumePayload := by
  intro left right alike
  obtain ⟨events, rfl⟩ := exists_events alike
  cases left with
  | mk _ payloads =>
      cases payloads with
      | cons cue payloads => exact play_isOblivious cue _ _ rfl
      | nil => exact playEnding_isOblivious none _ _ rfl

theorem playProduction_isOblivious (event : Event) : IsOblivious (playProduction event) := by
  intro left right alike
  obtain ⟨events, rfl⟩ := exists_events alike
  cases left with
  | mk _ _ productions =>
      cases productions with
      | cons cue productions => exact play_isOblivious cue _ _ rfl
      | nil => exact ⟨rfl, rfl⟩

theorem countFlush_alike {left right : Stage} (alike : Alike withoutEvents left right) :
    Alike withoutEvents left.countFlush right.countFlush := by
  obtain ⟨events, rfl⟩ := exists_events alike
  unfold countFlush
  cases left with
  | mk _ _ _ _ _ _ _ flushesLeft =>
      cases flushesLeft with
      | none => rfl
      | some flushesLeft =>
          dsimp only
          split
          · rfl
          · rfl

theorem flush_isOblivious : IsOblivious flush := by
  intro left right alike
  have noted : Alike withoutEvents (left.note .flush) (right.note .flush) := alike
  obtain ⟨events, counted⟩ := exists_events (countFlush_alike noted)
  unfold flush
  rw [counted]
  cases (left.note .flush).countFlush with
  | mk _ _ _ flushes =>
      cases flushes with
      | cons cue flushes => exact play_isOblivious cue _ _ rfl
      | nil => exact ⟨rfl, rfl⟩

theorem terminate_isOblivious : IsOblivious terminate := by
  intro left right alike
  obtain ⟨events, rfl⟩ := exists_events alike
  cases left with
  | mk _ _ _ _ terminations =>
      cases terminations with
      | cons cue terminations => exact play_isOblivious cue _ _ rfl
      | nil => exact ⟨rfl, rfl⟩

theorem complete_isOblivious (inputs : List Message) : IsOblivious (complete inputs) := by
  intro left right alike
  obtain ⟨events, rfl⟩ := exists_events alike
  cases left with
  | mk _ _ _ _ _ completions =>
      cases completions with
      | cons cue completions => exact play_isOblivious cue _ _ rfl
      | nil => exact ⟨rfl, rfl⟩

end Stage

/-- The messengers that play scripts. -/
inductive IsScripted : Messenger Stage → Prop where
  | batches : IsScripted batchMessenger
  | payloads (topics : Topics) (sourceMinimum : Nat) :
      IsScripted (byteMessenger.toMessenger topics sourceMinimum)

/-- What a script makes of a run does not depend on what has happened before. -/
theorem agent_isUnheard {messenger : Messenger Stage} (isScripted : IsScripted messenger)
    (renderer : Renderer) (sinkMinimum : Nat) (isVerbose : Bool) :
    (agent messenger renderer sinkMinimum isVerbose).IsUnheard Stage.withoutEvents where
  report _ _ := rfl
  isCancelled _ _ alike := (congrArg Stage.isCancelled alike :)
  consumeBatch := by
    cases isScripted with
    | batches => exact Stage.consumeBatch_isOblivious
    | payloads topics sourceMinimum =>
        exact collect_similar
          (ByteMessenger.nextMessage_similar Stage.consumePayload_isOblivious topics) sourceMinimum
  produce message := by
    cases isScripted with
    | batches => exact Stage.playProduction_isOblivious _
    | payloads topics sourceMinimum =>
        by_cases enabled : topics.hasSink
        · simp only [agent, ByteMessenger.toMessenger, if_pos enabled]
          exact Stage.playProduction_isOblivious _
        · simp only [agent, ByteMessenger.toMessenger, if_neg enabled]
          exact .pure ()
  flush := by cases isScripted <;> exact Stage.flush_isOblivious
  terminate := by cases isScripted <;> exact Stage.terminate_isOblivious
  complete inputs := Stage.complete_isOblivious inputs

end PromptRelay.Rehearsal

/-! ## Summary -/

namespace PromptRelay.Agent

/-- Being verbose changes nothing but what is reported. A verbose agent makes the same calls as
one that is not, in the same order, with the same arguments and at the same points of the
cancellation, and its run comes to the same. What happens in it is what happens in the other run,
with the content of each completion reported right after the call that has brought it; the other
run has no such reports. So it is wherever reports are not heard, in particular for the agent of
an application, and for every script, whatever its completions are interpreted as and whenever it
cancels the run. -/
theorem verbosity_reports_contents :
    (∀ {σ β : Type} (agent : Agent σ) (rest : σ → β), agent.IsUnheard rest →
      ∀ count state, DifferInContents rest agent.quiet agent.verbose count state) ∧
    (∀ {σ τ : Type} (application : Application σ) (network : Completion.Network)
      (messenger : Messenger τ) (count : Nat) (state : τ),
      DifferInContents id (application.agent network messenger).quiet
        (application.agent network messenger).verbose count state) ∧
    ∀ (messenger : Messenger Rehearsal.Stage), Rehearsal.IsScripted messenger →
      ∀ (renderer : Renderer) (sinkMinimum count : Nat) (stage : Rehearsal.Stage),
        DifferInContents Rehearsal.Stage.withoutEvents
          (Rehearsal.agent messenger renderer sinkMinimum false)
          (Rehearsal.agent messenger renderer sinkMinimum true) count stage := by
  refine ⟨?_, ?_, ?_⟩
  · intro σ β agent rest isUnheard count state
    exact isUnheard.differInContents count state
  · intro σ τ application network messenger count state
    have isUnheard := (application.agent network messenger).isUnheard_of_traceless fun _ _ => rfl
    exact isUnheard.differInContents count state
  · intro messenger isScripted renderer sinkMinimum count stage
    have isUnheard := Rehearsal.agent_isUnheard isScripted renderer sinkMinimum false
    exact isUnheard.differInContents count stage

/-- A completion that is no index, during which the run is cancelled. -/
def strayReply : Rehearsal.Stage where
  batches := [{ outcome := .done [] }]
  completions := [{ outcome := .done (some (.assistant " first ")), cancels := true }]

/-- The content of the completion is reported as it is, although its interpretation fails. -/
theorem journal_strayReply :
    (indexAgent.verbose.run 1 strayReply).1 =
        .failed (.interpretation (.notAnIndex "first")) ∧
      indexAgent.verbose.journal 1 strayReply =
        [.told (.started "scripted" 1),
          .called ⟨.consumeBatch (.done []), false⟩, .told (.consumed 0),
          .called ⟨.complete [] (.done (some (.assistant " first "))), true⟩,
          .told (.generated " first "),
          .called ⟨.terminate (.done ()), true⟩] := by
  have isUnheard : indexAgent.IsUnheard Rehearsal.Stage.withoutEvents :=
    Rehearsal.agent_isUnheard .batches _ 1 false
  have differ := verbosity_reports_contents.1 indexAgent _ isUnheard 1 strayReply
  constructor
  · rw [differ.outcome_eq]
    decide +kernel
  · have quiet : indexAgent.quiet.journal 1 strayReply =
        [.told (.started "scripted" 1),
          .called ⟨.consumeBatch (.done []), false⟩, .told (.consumed 0),
          .called ⟨.complete [] (.done (some (.assistant " first "))), true⟩,
          .called ⟨.terminate (.done ()), true⟩] := by decide +kernel
    rw [differ.journal_eq, quiet]
    rfl

end PromptRelay.Agent
