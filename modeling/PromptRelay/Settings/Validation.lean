import PromptRelay.Settings.Basic
import PromptRelay.Settings.Error
import PromptRelay.Text.Blank
import PromptRelay.Text.Letters

/-!
Contract: which settings are acceptable, and the backend that they select.

Owns:
- the completion backend, selected by which credentials are complete;
- the rules of each section, checked in a fixed order.

Does not own: loading, and connecting to what the settings name.
-/

namespace PromptRelay

open Text

/-- The completion backend that settings select. -/
inductive Backend where
  | ollama (baseUrl modelName : String)
  | openAi (apiKey baseUrl modelName : String)
deriving DecidableEq, Repr

namespace Backend

def name : Backend → String
  | .ollama .. => "ollama"
  | .openAi .. => "openai"

def modelName : Backend → String
  | .ollama _ modelName => modelName
  | .openAi _ _ modelName => modelName

end Backend

/-- Ollama when both of its settings are there, else OpenAI likewise. -/
def CompletionSettings.backend (settings : CompletionSettings) : Except Violation Backend :=
  match settings.ollama.baseUrl.bind nonBlank?, settings.ollama.modelName.bind nonBlank? with
  | some baseUrl, some modelName => .ok (.ollama baseUrl modelName)
  | _, _ =>
    let apiKey := settings.openAi.apiKey.filter fun key => !isBlankText key
    match apiKey, settings.openAi.modelName.bind nonBlank? with
    | some apiKey, some modelName => .ok (.openAi apiKey settings.openAi.baseUrl modelName)
    | _, _ => .error .noBackend

def MessengerSettings.requireKind (settings : MessengerSettings) :
    Except Violation MessengerKind :=
  match settings.kind with
  | some kind => .ok kind
  | none => .error .kindMissing

def MessengerSettings.hasTopics (settings : MessengerSettings) : Bool :=
  !settings.sources.isEmpty || !settings.sinks.isEmpty

def MessengerSettings.validate (settings : MessengerSettings) : Except Violation Unit := do
  let kind ← settings.requireKind
  if settings.hasTopics && settings.servers.isEmpty then
    .error .serversMissing
  else if kind = .nats && settings.hasTopics && (settings.groupId.bind nonBlank?).isNone then
    .error .groupMissing
  else
    .ok ()

def PromptSettings.requirePath (settings : PromptSettings) : Except Violation String :=
  match settings.path with
  | some path => .ok path
  | none => .error .pathMissing

def PromptSettings.validate (settings : PromptSettings) : Except Violation Unit := do
  let path ← settings.requirePath
  if path.isEmpty then .error .pathEmpty else .ok ()

/-- Whether a base URL names a scheme, blanks around it aside. -/
def hasScheme (url : String) : Bool :=
  let cs := trim url.toList
  "http://".toList.isPrefixOf cs || "https://".toList.isPrefixOf cs

def CompletionSettings.validate (settings : CompletionSettings) : Except Violation Unit :=
  if settings.timeoutSeconds = 0 || 600 < settings.timeoutSeconds then
    .error .timeoutOutOfRange
  else if !hasScheme settings.openAi.baseUrl then
    .error .baseUrlWithoutScheme
  else
    settings.backend.map fun _ => ()

def logLevels : List String := ["trace", "debug", "info", "warn", "error"]

def LogSettings.validate (settings : LogSettings) : Except Violation Unit :=
  if logLevels.contains (lowered (trimmed settings.level)) then .ok () else .error .unknownLevel

def Settings.validate (settings : Settings) : Except Violation Unit := do
  settings.messenger.validate
  settings.prompt.validate
  settings.completion.validate
  settings.log.validate

end PromptRelay
