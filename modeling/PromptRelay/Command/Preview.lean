import PromptRelay.Command.Basic
import PromptRelay.Prompt.Renderer
import PromptRelay.Settings.Load
import PromptRelay.Wire

/-!
Contract: the command that renders the prompt of a batch from a file.

Owns:
- the two forms of a batch file: an array of messages, and a message to a line;
- the stages of the command, each with an exit code of its own.

Does not own: rendering.
-/

namespace PromptRelay.Command

open Text

/-! ## Batches -/

/-- Why a file holds no batch. -/
inductive BatchError where
  | unreadable (path : String) (cause : ReadError)
  | malformedArray
  | malformedLine (number : Nat)
deriving DecidableEq, Repr

def BatchError.message : BatchError → String
  | .unreadable path cause => "could not read `" ++ path ++ "`: " ++ cause.message
  | .malformedArray => "invalid message array: " ++ detail
  | .malformedLine number =>
    "invalid message on line " ++ toString number ++ ": " ++ detail

/-- The messages of lines, the first of which has the given number. Blank lines
have none. -/
def readLines : (number : Nat) → List (List Char) → Except BatchError (List Message)
  | _, [] => .ok []
  | number, line :: rest =>
    if line.all isBlank then
      readLines (number + 1) rest
    else
      match decode Message (bytes (String.ofList line)) with
      | .error _ => .error (.malformedLine number)
      | .ok message => do .ok (message :: (← readLines (number + 1) rest))

/-- The messages of a text: those of an array, or of lines. Blanks around the text
do not count, nor do they in the numbers of lines. -/
def readBatch (text : String) : Except BatchError (List Message) :=
  let kept := trim text.toList
  if kept.head? = some '[' then
    (decode (List Message) (bytes (String.ofList kept))).mapError fun _ => .malformedArray
  else
    readLines 1 (lines kept)

def loadBatch (world : World) (path : String) : Except BatchError (List Message) := do
  readBatch (← (world.readText path).mapError (.unreadable path))

/-! ## Stages -/

/-- A stage at which the command fails, and why. -/
inductive PreviewError where
  | settings (error : SettingsError)
  | batch (error : BatchError)
  | path (violation : Violation)
  | prompt (error : PromptError)
deriving DecidableEq, Repr

namespace PreviewError

def message : PreviewError → String
  | .settings error => error.message
  | .batch error => error.message
  | .path violation => (SettingsError.invalid violation).message
  | .prompt error => error.message

def faultClass : PreviewError → String
  | .settings _ => "config_validation"
  | .batch _ => "input"
  | .path _ | .prompt _ => "template"

def exitCode : PreviewError → Nat
  | .settings _ => 2
  | .batch _ => 3
  | .path _ | .prompt _ => 4

end PreviewError

/-- The prompt of the batch in a file, by the template of the settings or by the
one that is given instead. -/
def previewPrompt (world : World) (input : String) (template : Option String) :
    Except (Stop PreviewError) Prompt := do
  let settings ← (Settings.load world { promptPath := template }).mapError (.failed ∘ .settings)
  let batch ← (loadBatch world input).mapError (.failed ∘ .batch)
  let path ← settings.prompt.requirePath.mapError (.failed ∘ .path)
  let renderer ← (Renderer.ofFile world path).mapError (.failed ∘ .prompt)
  (renderer.render batch).mapError (.map .prompt)

/-- Shows the prompt of the batch in a file. Nothing is shown if rendering crashes. -/
def preview (world : World) (input : String) (template : Option String) :
    Except Crash Result :=
  match previewPrompt world input template with
  | .ok prompt => .ok { exitCode := 0, output := Json.indented prompt.toJson }
  | .error (.failed error) =>
    .ok (failure "render" error.faultClass error.message error.exitCode)
  | .error (.crashed crash) => .error crash

end PromptRelay.Command
