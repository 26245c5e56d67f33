import PromptRelay.Command.Checkup
import PromptRelay.Proofs.Settings.Validity
import PromptRelay.Startup

/-!
Contract: the check of an installation against the start of the agent.

Owns:
- that settings which need no broker leave nothing to fail but their template;
- that the check passes exactly if the agent can be put together, and what its report
  says otherwise.

Does not own: settings that need a broker, which the check does not connect to.
-/

namespace PromptRelay

open Command

/-- Settings with which the agent is put together without a broker. -/
def MessengerSettings.NeedsNoBroker (settings : MessengerSettings) : Prop :=
  settings.kind = some .nats ∨
    settings.kind = some .kafka ∧ settings.sources = [] ∧ settings.sinks = []

section

variable {settings : Settings}

theorem connect_of_needsNoBroker {settings : MessengerSettings}
    (offline : settings.NeedsNoBroker) (brokers : Brokers σ) (state : σ) :
    ∃ connection, connect brokers settings state = .done connection := by
  rcases offline with nats | ⟨kafka, sources, sinks⟩
  · exact ⟨.nats { server := state }, by simp [connect, MessengerSettings.requireKind, nats]⟩
  · have idle : Kafka.connect brokers.kafka settings.topics state = (.done {}, state) := by
      simp [Kafka.connect, MessengerSettings.topics, Topics.hasSource, Topics.hasSink, sources,
        sinks]
    exact ⟨.kafka { backend := {}, broker := state },
      by simp [connect, MessengerSettings.requireKind, kafka, idle]⟩

/-- Once accepted settings are there, only the template can fail. -/
theorem start_eq_of_needsNoBroker (world : World) (complete : settings.Complete)
    (offline : settings.messenger.NeedsNoBroker) (brokers : Brokers σ) (state : σ) :
    ∃ path, settings.prompt.requirePath = .ok path ∧
      match Renderer.ofFile world path with
      | .ok _ => ∃ application, start world brokers state settings = .done application
      | .error error => start world brokers state settings = .failed (.prompt error) := by
  obtain ⟨path, required⟩ := complete.path
  obtain ⟨backend, selected⟩ := complete.backend
  obtain ⟨connection, connected⟩ := connect_of_needsNoBroker offline brokers state
  refine ⟨path, required, ?_⟩
  cases loaded : Renderer.ofFile world path with
  | ok renderer =>
      refine ⟨{ settings, renderer, backend, connection }, ?_⟩
      simp [start, required, loaded, selected, connected]
  | error error => simp [start, required, loaded]

end

namespace Command

/-! ## Checks -/

/-- What a report says about each check. -/
def verdicts (checks : List Check) : List (String × Status) :=
  checks.map fun check => (check.name, check.status)

section

variable {world : World} {settings : Settings}

theorem checkTemplate_eq (world : World) {path : String}
    (required : settings.prompt.requirePath = .ok path) :
    checkTemplate world settings =
      match Renderer.ofFile world path with
      | .ok _ =>
        { name := templateCheck
          status := .passed
          details := "template `" ++ path ++ "` compiled" }
      | .error error =>
        { name := templateCheck, status := .failed, details := error.message } := by
  cases loaded : Renderer.ofFile world path <;>
    simp [checkTemplate, findTemplate, required, loaded]

theorem checkBackend_verdict {backend : Backend}
    (selected : settings.completion.backend = .ok backend) :
    (checkBackend settings).name = backendCheck ∧ (checkBackend settings).status = .passed := by
  simp [checkBackend, selected]

/-- Of the checks of loaded settings, only that of the template depends on more. -/
theorem verdicts_of_load (loaded : Settings.load world {} = .ok settings) :
    verdicts (checks world) =
      [(settingsCheck, .passed), (topicsCheck, .passed),
        (templateCheck, (checkTemplate world settings).status), (backendCheck, .passed)] := by
  obtain ⟨_, path, backend⟩ := Settings.complete_of_load loaded
  obtain ⟨backend, selected⟩ := backend
  obtain ⟨path, required⟩ := path
  have named : (checkTemplate world settings).name = templateCheck := by
    rw [checkTemplate_eq world required]
    cases Renderer.ofFile world path <;> rfl
  obtain ⟨backendNamed, backendPassed⟩ := checkBackend_verdict selected
  simp [verdicts, checks, loaded, named, backendNamed, backendPassed, checkTopics]

theorem verdicts_of_load_error {error : SettingsError}
    (failed : Settings.load world {} = .error error) :
    verdicts (checks world) =
      [(settingsCheck, .failed), (topicsCheck, .skipped), (templateCheck, .skipped),
        (backendCheck, .skipped)] := by
  simp [verdicts, checks, failed]

theorem isReady_iff (checks : List Check) :
    isReady checks = true ↔ ∀ verdict ∈ verdicts checks, verdict.2 = .passed := by
  simp [isReady, verdicts]

theorem exitCode_eq (world : World) (asJson : Bool) :
    (checkUp world asJson).exitCode = if isReady (checks world) then 0 else 1 := rfl

end

/-! ## Agreement -/

section

variable {settings : Settings}

/-- The check of the template passes or fails as the start does. -/
theorem checkTemplate_agrees (world : World) (complete : settings.Complete)
    (offline : settings.messenger.NeedsNoBroker) (brokers : Brokers σ) (state : σ) :
    ((checkTemplate world settings).status = .passed ↔
      ∃ application, start world brokers state settings = .done application) ∧
    ((checkTemplate world settings).status = .failed ↔
      ∃ error, start world brokers state settings = .failed (.prompt error) ∧
        (checkTemplate world settings).details = (StartError.prompt error).message) := by
  obtain ⟨path, required, course⟩ :=
    start_eq_of_needsNoBroker world complete offline brokers state
  have reported := checkTemplate_eq world required
  cases loaded : Renderer.ofFile world path with
  | ok renderer =>
      rw [loaded] at course reported
      obtain ⟨application, started⟩ := course
      simp [reported, started]
  | error error =>
      rw [loaded] at course reported
      constructor
      · simp [reported, course]
      · exact ⟨fun _ => ⟨error, course, by rw [reported]; rfl⟩, fun _ => by rw [reported]⟩

end

/-- In a world whose settings need no broker, the check passes exactly if settings can
be loaded and the agent be put together from them; it ends with exit code 1 otherwise,
whichever form its report has. If settings cannot be loaded, all other checks are
skipped. If they can, all checks pass but possibly that of the template, which fails
exactly if the agent cannot be put together, and tells the same. -/
theorem checkUp_iff_start (world : World) (brokers : Brokers σ) (state : σ) (asJson : Bool)
    (offline : ∀ settings, Settings.load world {} = .ok settings →
      settings.messenger.NeedsNoBroker) :
    ((checkUp world asJson).exitCode = 0 ↔
      ∃ settings application, Settings.load world {} = .ok settings ∧
        start world brokers state settings = .done application) ∧
    ((checkUp world asJson).exitCode ≠ 0 → (checkUp world asJson).exitCode = 1) ∧
    (∀ error, Settings.load world {} = .error error →
      verdicts (checks world) =
        [(settingsCheck, .failed), (topicsCheck, .skipped), (templateCheck, .skipped),
          (backendCheck, .skipped)]) ∧
    ∀ settings, Settings.load world {} = .ok settings →
      ∃ template,
        (checks world)[2]? = some template ∧
        verdicts (checks world) =
          [(settingsCheck, .passed), (topicsCheck, .passed), (templateCheck, template.status),
            (backendCheck, .passed)] ∧
        (template.status = .passed ↔
          ∃ application, start world brokers state settings = .done application) ∧
        (template.status = .failed ↔
          ∃ error, start world brokers state settings = .failed (.prompt error) ∧
            template.details = (StartError.prompt error).message) := by
  cases loaded : Settings.load world {} with
  | error error =>
      have said := verdicts_of_load_error loaded
      have notReady : isReady (checks world) = false := by
        rw [Bool.eq_false_iff, ne_eq, isReady_iff, said]
        simp
      refine ⟨by simp [exitCode_eq, notReady], by simp [exitCode_eq, notReady], ?_, by simp⟩
      exact fun _ _ => said
  | ok settings =>
      have said := verdicts_of_load loaded
      have agreement := checkTemplate_agrees world (Settings.complete_of_load loaded)
        (offline settings loaded) brokers state
      have ready : isReady (checks world) = true ↔
          (checkTemplate world settings).status = .passed := by
        rw [isReady_iff, said]
        simp
      refine ⟨by simp [exitCode_eq, ready, agreement.1], by simp [exitCode_eq], by simp, ?_⟩
      rintro _ ⟨⟩
      exact ⟨checkTemplate world settings, by simp [checks, loaded], said, agreement⟩

/-- A NATS agent with a template at hand. -/
def equippedWorld : World where
  entries := [(["prompt.yaml"], .file (Text.bytes "inputs: \x7b\x7b inputs \x7d\x7d"))]
  environment := [
    ("MESSENGER_KIND", Text.bytes "nats"),
    ("PROMPT_PATH", Text.bytes "prompt.yaml"),
    ("OLLAMA_BASE_URL", Text.bytes "http://localhost:11434"),
    ("OLLAMA_MODEL_NAME", Text.bytes "llama3")]

/-- Where the check passes, the agent is put together without any broker. -/
theorem start_equippedWorld :
    (checkUp equippedWorld true).exitCode = 0 ∧
      ∃ settings application, Settings.load equippedWorld {} = .ok settings ∧
        start equippedWorld Brokers.unreachable () settings = .done application := by
  have selected : (Settings.load equippedWorld {}).toOption.map (·.messenger.kind) =
      some (some .nats) := by decide +kernel
  have offline : ∀ settings, Settings.load equippedWorld {} = .ok settings →
      settings.messenger.NeedsNoBroker := by
    intro settings loaded
    rw [loaded] at selected
    exact .inl (Option.some.inj selected)
  have passed : (checkUp equippedWorld true).exitCode = 0 := by decide +kernel
  exact ⟨passed, (checkUp_iff_start _ Brokers.unreachable () true offline).1.mp passed⟩

end Command

end PromptRelay
