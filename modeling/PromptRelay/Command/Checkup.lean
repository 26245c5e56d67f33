import PromptRelay.Command.Basic
import PromptRelay.Prompt.Renderer
import PromptRelay.Settings.Load

/-!
Contract: the command that checks whether the agent is ready to start.

Owns:
- the checks of the settings, the topics, the prompt template and the backend;
- the report of all checks, for people and as JSON.

Does not own: what is checked.
-/

namespace PromptRelay.Command

open Text

inductive Status where
  | passed
  | failed
  | skipped
deriving DecidableEq, Repr

structure Check where
  name : String
  status : Status
  details : String
deriving DecidableEq, Repr

/-! ## Checks -/

def settingsCheck : String := "config_validation"

def topicsCheck : String := "messenger_topics"

def templateCheck : String := "prompt_template"

def backendCheck : String := "completion_backend"

def shownSide (topics : List String) : String :=
  if topics.isEmpty then "disabled" else joined "," topics

/-- Disabled sides are in order, so this only tells what is set. -/
def checkTopics (settings : Settings) : Check :=
  let messenger := settings.messenger
  let kind := (messenger.kind.map MessengerKind.name).getD ""
  { name := topicsCheck
    status := .passed
    details := kind ++ ": source " ++ shownSide messenger.sources ++
      " (batch >= " ++ toString messenger.sourceMinimum ++
      "), sink " ++ shownSide messenger.sinks ++
      " (loop " ++ toString messenger.sinkMinimum ++ ")" }

/-- The path of the template, if it can be loaded. -/
def findTemplate (world : World) (settings : Settings) : Except String String := do
  let path ← settings.prompt.requirePath.mapError fun violation =>
    (SettingsError.invalid violation).message
  let _ ← (Renderer.ofFile world path).mapError PromptError.message
  .ok path

def checkTemplate (world : World) (settings : Settings) : Check :=
  match findTemplate world settings with
  | .ok path =>
    { name := templateCheck, status := .passed, details := "template `" ++ path ++ "` compiled" }
  | .error message => { name := templateCheck, status := .failed, details := message }

def checkBackend (settings : Settings) : Check :=
  match settings.completion.backend with
  | .ok backend =>
    { name := backendCheck
      status := .passed
      details := backend.name ++ " selected with model `" ++ backend.modelName ++
        "` (timeout " ++ toString settings.completion.timeoutSeconds ++ "s)" }
  | .error violation =>
    { name := backendCheck
      status := .failed
      details := (SettingsError.invalid violation).message }

/-- All checks. Without settings the others are skipped. -/
def checks (world : World) : List Check :=
  match Settings.load world {} with
  | .ok settings => [
      { name := settingsCheck, status := .passed,
        details := "configuration loaded and validated" },
      checkTopics settings,
      checkTemplate world settings,
      checkBackend settings]
  | .error error =>
    { name := settingsCheck, status := .failed, details := error.message } ::
      [topicsCheck, templateCheck, backendCheck].map fun name =>
        { name, status := .skipped, details := "skipped because configuration did not load" }

/-! ## Reports -/

def isReady (checks : List Check) : Bool :=
  checks.all fun check => check.status = .passed

def summary (checks : List Check) : String :=
  if isReady checks then "doctor: all readiness checks passed"
  else "doctor: one or more readiness checks failed"

def Status.name : Status → String
  | .passed => "pass"
  | .failed => "fail"
  | .skipped => "skipped"

def Status.mark : Status → String
  | .passed => "ok"
  | .failed => "fail"
  | .skipped => "skip"

def Check.toJson (check : Check) : Json.Value :=
  .object [
    ("name", .text check.name),
    ("status", .text check.status.name),
    ("details", .text check.details)]

def jsonReport (checks : List Check) : String :=
  let overall : Status := if isReady checks then .passed else .failed
  Json.indented (.object [
    ("overall_status", .text overall.name),
    ("summary", .text (summary checks)),
    ("checks", .list (checks.map Check.toJson))])

def Check.line (check : Check) : String :=
  "- [" ++ check.status.mark ++ "] " ++ check.name ++ ": " ++ check.details

def plainReport (checks : List Check) : String :=
  joined "\n" (summary checks :: checks.map Check.line)

/-- Checks everything. The exit code tells whether all checks have passed. -/
def checkUp (world : World) (asJson : Bool) : Result :=
  let checks := checks world
  { exitCode := if isReady checks then 0 else 1
    output := if asJson then jsonReport checks else plainReport checks }

end PromptRelay.Command
