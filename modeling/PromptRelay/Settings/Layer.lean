import PromptRelay.Settings.Basic

/-!
Contract: settings as layers, each of which provides some of them.

Owns:
- the layer, which may provide any of the twenty settings;
- laying one layer over another, and the settings that a layer amounts to.

Does not own: reading a layer from a file or from variables.
-/

namespace PromptRelay

/-- The settings that one source provides. -/
structure Layer where
  kind : Option MessengerKind := none
  servers : Option (List String) := none
  clientId : Option String := none
  groupId : Option String := none
  sources : Option (List String) := none
  sinks : Option (List String) := none
  sourceMinimum : Option Nat := none
  sourceMaximum : Option Nat := none
  sinkMinimum : Option Nat := none
  sinkMaximum : Option Nat := none
  promptPath : Option String := none
  isVerbose : Option Bool := none
  timeoutSeconds : Option Nat := none
  ollamaBaseUrl : Option String := none
  ollamaModelName : Option String := none
  openAiApiKey : Option String := none
  openAiBaseUrl : Option String := none
  openAiModelName : Option String := none
  logLevel : Option String := none
  logFormat : Option LogFormat := none
deriving DecidableEq, Repr

namespace Layer

/-- Takes each setting from the upper layer where that provides it, else from
the lower one. -/
def above (upper lower : Layer) : Layer where
  kind := upper.kind <|> lower.kind
  servers := upper.servers <|> lower.servers
  clientId := upper.clientId <|> lower.clientId
  groupId := upper.groupId <|> lower.groupId
  sources := upper.sources <|> lower.sources
  sinks := upper.sinks <|> lower.sinks
  sourceMinimum := upper.sourceMinimum <|> lower.sourceMinimum
  sourceMaximum := upper.sourceMaximum <|> lower.sourceMaximum
  sinkMinimum := upper.sinkMinimum <|> lower.sinkMinimum
  sinkMaximum := upper.sinkMaximum <|> lower.sinkMaximum
  promptPath := upper.promptPath <|> lower.promptPath
  isVerbose := upper.isVerbose <|> lower.isVerbose
  timeoutSeconds := upper.timeoutSeconds <|> lower.timeoutSeconds
  ollamaBaseUrl := upper.ollamaBaseUrl <|> lower.ollamaBaseUrl
  ollamaModelName := upper.ollamaModelName <|> lower.ollamaModelName
  openAiApiKey := upper.openAiApiKey <|> lower.openAiApiKey
  openAiBaseUrl := upper.openAiBaseUrl <|> lower.openAiBaseUrl
  openAiModelName := upper.openAiModelName <|> lower.openAiModelName
  logLevel := upper.logLevel <|> lower.logLevel
  logFormat := upper.logFormat <|> lower.logFormat

/-- The settings with their defaults where the layer provides nothing. -/
def toSettings (layer : Layer) : Settings :=
  let unset : Settings := {}
  { messenger := {
      kind := layer.kind
      servers := layer.servers.getD unset.messenger.servers
      clientId := layer.clientId
      groupId := layer.groupId
      sources := layer.sources.getD unset.messenger.sources
      sinks := layer.sinks.getD unset.messenger.sinks
      sourceMinimum := layer.sourceMinimum.getD unset.messenger.sourceMinimum
      sourceMaximum := layer.sourceMaximum
      sinkMinimum := layer.sinkMinimum.getD unset.messenger.sinkMinimum
      sinkMaximum := layer.sinkMaximum }
    prompt := {
      path := layer.promptPath
      isVerbose := layer.isVerbose.getD unset.prompt.isVerbose }
    completion := {
      timeoutSeconds := layer.timeoutSeconds.getD unset.completion.timeoutSeconds
      ollama := { baseUrl := layer.ollamaBaseUrl, modelName := layer.ollamaModelName }
      openAi := {
        apiKey := layer.openAiApiKey
        baseUrl := layer.openAiBaseUrl.getD unset.completion.openAi.baseUrl
        modelName := layer.openAiModelName } }
    log := {
      level := layer.logLevel.getD unset.log.level
      format := layer.logFormat.getD unset.log.format } }

end Layer

end PromptRelay
