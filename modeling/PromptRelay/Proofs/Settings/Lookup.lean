import PromptRelay.Settings.Layer
import PromptRelay.Settings.Setting

/-!
Contract: looking up a setting by its name, in a layer and in settings.

Owns:
- the type of the values of each setting, and its value in a layer and in settings;
- that settings are determined by the values of the twenty;
- look-ups in two layers laid over each other, and in what a layer amounts to.

Does not own: what the layers are made of.
-/

namespace PromptRelay

/-- The type of the values of a setting. -/
abbrev Setting.Value : Setting → Type
  | .kind => MessengerKind
  | .servers | .sources | .sinks => List String
  | .sourceMinimum | .sourceMaximum | .sinkMinimum | .sinkMaximum | .timeoutSeconds => Nat
  | .verbose => Bool
  | .logFormat => LogFormat
  | .clientId | .groupId | .promptPath | .ollamaBaseUrl | .ollamaModelName | .openAiApiKey
  | .openAiBaseUrl | .openAiModelName | .logLevel => String

/-- All settings, in the order in which their variables are read. -/
def Setting.all : List Setting :=
  [.kind, .servers, .clientId, .groupId, .sources, .sinks, .sourceMinimum, .sourceMaximum,
    .sinkMinimum, .sinkMaximum, .promptPath, .verbose, .ollamaBaseUrl, .ollamaModelName,
    .openAiApiKey, .openAiBaseUrl, .openAiModelName, .timeoutSeconds, .logLevel, .logFormat]

@[simp] theorem Setting.mem_all (setting : Setting) : setting ∈ all := by
  cases setting <;> decide

/-! ## Layers -/

namespace Layer

/-- The value that a layer provides for a setting. -/
def get (layer : Layer) : (setting : Setting) → Option setting.Value
  | .kind => layer.kind
  | .servers => layer.servers
  | .clientId => layer.clientId
  | .groupId => layer.groupId
  | .sources => layer.sources
  | .sinks => layer.sinks
  | .sourceMinimum => layer.sourceMinimum
  | .sourceMaximum => layer.sourceMaximum
  | .sinkMinimum => layer.sinkMinimum
  | .sinkMaximum => layer.sinkMaximum
  | .promptPath => layer.promptPath
  | .verbose => layer.isVerbose
  | .ollamaBaseUrl => layer.ollamaBaseUrl
  | .ollamaModelName => layer.ollamaModelName
  | .openAiApiKey => layer.openAiApiKey
  | .openAiBaseUrl => layer.openAiBaseUrl
  | .openAiModelName => layer.openAiModelName
  | .timeoutSeconds => layer.timeoutSeconds
  | .logLevel => layer.logLevel
  | .logFormat => layer.logFormat

theorem get_empty (setting : Setting) : ({} : Layer).get setting = none := by
  cases setting <;> rfl

theorem get_above (upper lower : Layer) (setting : Setting) :
    (upper.above lower).get setting = (upper.get setting <|> lower.get setting) := by
  cases setting <;> rfl

end Layer

/-! ## Settings -/

namespace Settings

/-- The value of a setting. Some may be left without one. -/
def get (settings : Settings) : (setting : Setting) → Option setting.Value
  | .kind => settings.messenger.kind
  | .servers => some settings.messenger.servers
  | .clientId => settings.messenger.clientId
  | .groupId => settings.messenger.groupId
  | .sources => some settings.messenger.sources
  | .sinks => some settings.messenger.sinks
  | .sourceMinimum => some settings.messenger.sourceMinimum
  | .sourceMaximum => settings.messenger.sourceMaximum
  | .sinkMinimum => some settings.messenger.sinkMinimum
  | .sinkMaximum => settings.messenger.sinkMaximum
  | .promptPath => settings.prompt.path
  | .verbose => some settings.prompt.isVerbose
  | .ollamaBaseUrl => settings.completion.ollama.baseUrl
  | .ollamaModelName => settings.completion.ollama.modelName
  | .openAiApiKey => settings.completion.openAi.apiKey
  | .openAiBaseUrl => some settings.completion.openAi.baseUrl
  | .openAiModelName => settings.completion.openAi.modelName
  | .timeoutSeconds => some settings.completion.timeoutSeconds
  | .logLevel => some settings.log.level
  | .logFormat => some settings.log.format

/-- There is nothing in settings but the twenty. -/
theorem eq_of_get {settings other : Settings}
    (same : ∀ setting, settings.get setting = other.get setting) : settings = other := by
  obtain ⟨⟨⟩, ⟨⟩, ⟨_, ⟨⟩, ⟨⟩⟩, ⟨⟩⟩ := settings
  obtain ⟨⟨⟩, ⟨⟩, ⟨_, ⟨⟩, ⟨⟩⟩, ⟨⟩⟩ := other
  have all := fun setting (_ : setting ∈ Setting.all) => same setting
  simp only [Setting.all, List.forall_mem_cons, get, Option.some.injEq] at all
  simp [all]

end Settings

/-- The value that a setting has when nothing sets it. Some have none. -/
def Setting.default? : (setting : Setting) → Option setting.Value
  | .servers | .sources | .sinks => some []
  | .sourceMinimum | .sinkMinimum => some 1
  | .verbose => some false
  | .openAiBaseUrl => some "https://api.openai.com/v1"
  | .timeoutSeconds => some 300
  | .logLevel => some "info"
  | .logFormat => some .compact
  | _ => none

theorem Layer.get_toSettings (layer : Layer) (setting : Setting) :
    layer.toSettings.get setting = (layer.get setting <|> setting.default?) := by
  cases setting <;>
    simp [toSettings, Settings.get, get, Setting.default?, defaultOpenAiBaseUrl]

end PromptRelay
