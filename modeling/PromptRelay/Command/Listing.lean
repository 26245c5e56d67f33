import PromptRelay.Command.Basic
import PromptRelay.Settings.Load

/-!
Contract: the command that lists the settings in effect.

Owns:
- the value of each setting as it is shown, with the credentials hidden;
- where a setting is said to come from;
- the lines of the listing.

Does not own: loading.
-/

namespace PromptRelay.Command

open Text

/-! ## Values -/

def unset : String := "<unset>"

def shownText (value : Option String) : String :=
  value.getD unset

def shownItems (items : List String) : String :=
  if items.isEmpty then "<none>" else joined "," items

def shownMaximum : Option Nat → String
  | some count => toString count ++ " (not enforced)"
  | none => unset

def shownSwitch (isOn : Bool) : String :=
  if isOn then "true" else "false"

def shownFormat : LogFormat → String
  | .compact => "Compact"
  | .pretty => "Pretty"
  | .json => "Json"

/-- A key with everything hidden but the part before its first dash. -/
def shownKey (key : String) : String :=
  let kept := trim key.toList
  if kept.isEmpty then "<empty>"
  else
    match before? '-' kept with
    | some start => String.ofList start ++ "-***"
    | none => "<redacted>"

/-- The value of a setting as it is shown. -/
def shown (settings : Settings) : Setting → String
  | .kind => shownText (settings.messenger.kind.map MessengerKind.name)
  | .servers => shownItems settings.messenger.servers
  | .clientId => shownText settings.messenger.clientId
  | .groupId => shownText settings.messenger.groupId
  | .sources => shownItems settings.messenger.sources
  | .sinks => shownItems settings.messenger.sinks
  | .sourceMinimum => toString settings.messenger.sourceMinimum
  | .sourceMaximum => shownMaximum settings.messenger.sourceMaximum
  | .sinkMinimum => toString settings.messenger.sinkMinimum
  | .sinkMaximum => shownMaximum settings.messenger.sinkMaximum
  | .promptPath => shownText settings.prompt.path
  | .verbose => shownSwitch settings.prompt.isVerbose
  | .timeoutSeconds => toString settings.completion.timeoutSeconds
  | .ollamaBaseUrl => shownText settings.completion.ollama.baseUrl
  | .ollamaModelName => shownText settings.completion.ollama.modelName
  | .openAiApiKey => shownText (settings.completion.openAi.apiKey.map shownKey)
  | .openAiBaseUrl => settings.completion.openAi.baseUrl
  | .openAiModelName => shownText settings.completion.openAi.modelName
  | .logLevel => settings.log.level
  | .logFormat => shownFormat settings.log.format

/-! ## Origins -/

/-- Where a setting is said to come from. -/
inductive Origin where
  | variable (name : String)
  | file (path : String)
  | default
deriving DecidableEq, Repr

def Origin.shown : Origin → String
  | .variable name => "env (" ++ name ++ ")"
  | .file path => "file (" ++ path ++ ")"
  | .default => "default"

/-- A settings file as it is written, before variables are put in. -/
structure WrittenFile where
  path : String
  document : Toml.Value
deriving Repr

/-- The settings file, if there is one and it can be read as it is written. -/
def writtenFile? (world : World) : Option WrittenFile := do
  let path ← settingsPath? world none
  let text ← (world.readText path).toOption
  some { path, document := ← Toml.parse text }

/-- A setting comes from the variable that is set, be it blank or not, else from
the file that holds its path. -/
def origin (world : World) (file? : Option WrittenFile) (setting : Setting) : Origin :=
  let isSet (name : String) : Bool := (world.variableBytes? name).isSome
  if isSet setting.variableName then .variable setting.variableName
  else if isSet setting.smallVariableName then .variable setting.smallVariableName
  else
    match file? with
    | some file => if (file.document.at? setting.path).isSome then .file file.path else .default
    | none => .default

/-! ## Lines -/

/-- The order of the listing. -/
def listedSettings : List Setting :=
  [.kind, .servers, .clientId, .groupId, .sources, .sinks, .sourceMinimum, .sourceMaximum,
    .sinkMinimum, .sinkMaximum, .promptPath, .verbose, .timeoutSeconds, .ollamaBaseUrl,
    .ollamaModelName, .openAiApiKey, .openAiBaseUrl, .openAiModelName, .logLevel, .logFormat]

def line (key value source : String) : String :=
  "- " ++ key ++ " = " ++ value ++ " (source: " ++ source ++ ")"

def settingLine (world : World) (settings : Settings) (setting : Setting) : String :=
  line (joined "." setting.path) (shown settings setting)
    (origin world (writtenFile? world) setting).shown

def shownBackend (settings : Settings) : String :=
  match settings.completion.backend with
  | .ok backend => backend.name ++ " (" ++ backend.modelName ++ ")"
  | .error violation => "<none: " ++ (SettingsError.invalid violation).message ++ ">"

def heading : String := "effective config (source precedence: env > file > default):"

/-- The listing of the settings in effect, or why they cannot be loaded. -/
def listing (world : World) : String :=
  match Settings.load world {} with
  | .error error => "config validation failed: " ++ error.message
  | .ok settings =>
    joined "\n" ([heading] ++ listedSettings.map (settingLine world settings) ++
      [line "llm.backend" (shownBackend settings) "derived"])

/-- The command never fails. -/
def list (world : World) : Result :=
  { exitCode := 0, output := listing world }

end PromptRelay.Command
