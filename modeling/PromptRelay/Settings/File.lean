import PromptRelay.Settings.Interpolation
import PromptRelay.Settings.Layer
import PromptRelay.Settings.Spelling
import PromptRelay.Toml.Document

/-!
Contract: the layer that a settings file provides.

Owns:
- reading each setting from its TOML value;
- records, written as tables or as arrays in the declared order of their
  members;
- reading a file: its variables are put in before it is parsed.

Does not own: finding the file.
-/

namespace PromptRelay

open Toml (Value)

/-! ## Values -/

def textOf? : Value → Option String
  | .text value => some value
  | _ => none

def switchOf? : Value → Option Bool
  | .boolean value => some value
  | _ => none

def countOf? : Value → Option Nat
  | .integer value => if 0 ≤ value then some value.toNat else none
  | _ => none

/-- A list of strings, or one string; either way commas separate items. -/
def itemsOf? : Value → Option (List String)
  | .text value => some (readItems value)
  | .array values => (values.mapM textOf?).map fun texts => texts.flatMap readItems
  | _ => none

/-- A table or an array without members. -/
def isEmptyValue : Value → Bool
  | .table members => members.isEmpty
  | .array items => items.isEmpty
  | _ => false

/-- One of the names, as a string or as the only key of a table with an empty
value. -/
def choiceOf? (choices : List (String × α)) : Value → Option α
  | .text name => choices.lookup name
  | .table [(name, value)] => if isEmptyValue value then choices.lookup name else none
  | _ => none

def kindOf? : Value → Option MessengerKind :=
  choiceOf? ([.kafka, .nats].map fun kind => (kind.name, kind))

def formatOf? : Value → Option LogFormat :=
  choiceOf? ([.compact, .pretty, .json].map fun format => (format.name, format))

/-! ## Records -/

abbrev Members := List (String × Value)

/-- The members of a record. An array has to have an item for each of them. -/
def recordOf? (keys : List String) : Value → Option Members
  | .table members => some members
  | .array items => if keys.length ≤ items.length then some (keys.zip items) else none
  | _ => none

/-- A member, which may be absent but not of the wrong kind. -/
def memberOf? (read : Value → Option α) (key : String) (members : Members) :
    Option (Option α) :=
  match members.lookup key with
  | none => some none
  | some value => (read value).map some

def messengerKeys : List String :=
  ["kind", "bootstrap_servers", "client_id", "group_id", "topic_src", "topic_sink",
    "src_count_min", "src_count_max", "sink_count_min", "sink_count_max"]

def messengerLayer? (value : Value) : Option Layer := do
  let members ← recordOf? messengerKeys value
  some {
    kind := ← memberOf? kindOf? "kind" members
    servers := ← memberOf? itemsOf? "bootstrap_servers" members
    clientId := ← memberOf? textOf? "client_id" members
    groupId := ← memberOf? textOf? "group_id" members
    sources := ← memberOf? itemsOf? "topic_src" members
    sinks := ← memberOf? itemsOf? "topic_sink" members
    sourceMinimum := ← memberOf? countOf? "src_count_min" members
    sourceMaximum := ← memberOf? countOf? "src_count_max" members
    sinkMinimum := ← memberOf? countOf? "sink_count_min" members
    sinkMaximum := ← memberOf? countOf? "sink_count_max" members }

def promptLayer? (value : Value) : Option Layer := do
  let members ← recordOf? ["path", "verbose"] value
  some {
    promptPath := ← memberOf? textOf? "path" members
    isVerbose := ← memberOf? switchOf? "verbose" members }

def ollamaLayer? (value : Value) : Option Layer := do
  let members ← recordOf? ["base_url", "model_name"] value
  some {
    ollamaBaseUrl := ← memberOf? textOf? "base_url" members
    ollamaModelName := ← memberOf? textOf? "model_name" members }

def openAiLayer? (value : Value) : Option Layer := do
  let members ← recordOf? ["api_key", "base_url", "model_name"] value
  some {
    openAiApiKey := ← memberOf? textOf? "api_key" members
    openAiBaseUrl := ← memberOf? textOf? "base_url" members
    openAiModelName := ← memberOf? textOf? "model_name" members }

/-- A member that is a record of its own; an absent one provides nothing. -/
def sectionOf? (read : Value → Option Layer) (key : String) (members : Members) :
    Option Layer :=
  (memberOf? read key members).map fun found => found.getD {}

def completionLayer? (value : Value) : Option Layer := do
  let members ← recordOf? ["timeout_secs", "ollama", "openai"] value
  let timeoutSeconds ← memberOf? countOf? "timeout_secs" members
  let ollama ← sectionOf? ollamaLayer? "ollama" members
  let openAi ← sectionOf? openAiLayer? "openai" members
  some ({ ollama.above openAi with timeoutSeconds })

def logLayer? (value : Value) : Option Layer := do
  let members ← recordOf? ["level", "format"] value
  some {
    logLevel := ← memberOf? textOf? "level" members
    logFormat := ← memberOf? formatOf? "format" members }

/-- The layer of a document. Its sections provide different settings, so it does
not matter which is laid over which. -/
def Layer.ofDocument? (document : Value) : Option Layer := do
  let members ← recordOf? ["messenger", "prompt", "llm", "logging"] document
  let messenger ← sectionOf? messengerLayer? "messenger" members
  let prompt ← sectionOf? promptLayer? "prompt" members
  let completion ← sectionOf? completionLayer? "llm" members
  let log ← sectionOf? logLayer? "logging" members
  some (messenger.above (prompt.above (completion.above log)))

/-! ## Files -/

def InterpolationError.toSettingsError : InterpolationError → SettingsError
  | .missing name => .missingVariable name
  | .unterminated => .unterminatedExpression

/-- The layer of the file that a path leads to. -/
def Layer.ofFile (world : World) (path : String) : Except SettingsError Layer := do
  let raw ← (world.readText path).mapError (.unreadableFile path)
  let text ← (interpolate world.variableText? raw).mapError InterpolationError.toSettingsError
  match (Toml.parse text).bind Layer.ofDocument? with
  | some layer => .ok layer
  | none => .error (.malformedFile path)

end PromptRelay
