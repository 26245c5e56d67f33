import PromptRelay.Settings.Layer
import PromptRelay.Settings.Setting
import PromptRelay.Settings.Spelling

/-!
Contract: the layer that the environment provides.

Owns:
- the text that the environment gives for a setting, under either name;
- the rule that blank text provides no scalar but an empty list;
- the order in which variables are read, which decides between faults.

Does not own: whether a setting is acceptable.
-/

namespace PromptRelay

open Text

/-- The text given for a setting. A variable that is not valid UTF-8 gives none,
so that the other name is looked at. -/
def World.settingText? (world : World) (setting : Setting) : Option String :=
  world.variableText? setting.variableName <|> world.variableText? setting.smallVariableName

/-- The text given for a scalar, unless it is blank. -/
def World.scalarText? (world : World) (setting : Setting) : Option String :=
  (world.settingText? setting).filter fun text => !isBlankText text

/-- A scalar read from the text given for it. -/
def readScalar (world : World) (setting : Setting) (read : String → Except SettingsError α) :
    Except SettingsError (Option α) :=
  match world.scalarText? setting with
  | none => .ok none
  | some text => (read text).map some

/-- A list, which blank text gives as the empty one. -/
def givenItems? (world : World) (setting : Setting) : Option (List String) :=
  (world.settingText? setting).map readItems

/-- Reads by a rule that some texts do not follow. -/
def readBy (read? : String → Option α) (setting : Setting) (text : String) :
    Except SettingsError α :=
  match read? text with
  | some value => .ok value
  | none => .error (.unreadableVariable setting.variableName text)

/-- The layer of the environment. -/
def Layer.ofEnvironment (world : World) : Except SettingsError Layer := do
  let count (setting : Setting) := readScalar world setting (readBy readCount? setting)
  let kind ← readScalar world .kind fun text => (readKind text).mapError .invalid
  let sourceMinimum ← count .sourceMinimum
  let sourceMaximum ← count .sourceMaximum
  let sinkMinimum ← count .sinkMinimum
  let sinkMaximum ← count .sinkMaximum
  let isVerbose ← readScalar world .verbose (readBy readSwitch? .verbose)
  let timeoutSeconds ← count .timeoutSeconds
  let logFormat ← readScalar world .logFormat fun text => (readFormat text).mapError .invalid
  .ok {
    kind, sourceMinimum, sourceMaximum, sinkMinimum, sinkMaximum, isVerbose, timeoutSeconds,
    logFormat
    servers := givenItems? world .servers
    clientId := world.scalarText? .clientId
    groupId := world.scalarText? .groupId
    sources := givenItems? world .sources
    sinks := givenItems? world .sinks
    promptPath := world.scalarText? .promptPath
    ollamaBaseUrl := world.scalarText? .ollamaBaseUrl
    ollamaModelName := world.scalarText? .ollamaModelName
    openAiApiKey := world.scalarText? .openAiApiKey
    openAiBaseUrl := world.scalarText? .openAiBaseUrl
    openAiModelName := world.scalarText? .openAiModelName
    logLevel := world.scalarText? .logLevel }

end PromptRelay
