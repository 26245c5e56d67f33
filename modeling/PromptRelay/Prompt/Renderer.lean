import PromptRelay.Detail
import PromptRelay.Prompt.Document
import PromptRelay.Template.Rendering
import PromptRelay.World

/-!
Contract: turning a batch of messages into a prompt by a template.

Owns:
- loading a template, and the variables that it is given;
- rendering a batch to text and reading the text as a prompt;
- why either fails.

Does not own: the template language and YAML.
-/

namespace PromptRelay

/-- Why there is no prompt. -/
inductive PromptError where
  | unreadable (path : String) (cause : ReadError)
  | malformedTemplate
  | failedRendering
  /-- The rendered text is no prompt. -/
  | malformedDocument
deriving DecidableEq, Repr

def PromptError.message : PromptError → String
  | .unreadable path cause =>
    "could not read prompt template `" ++ path ++ "`: " ++ cause.message
  | .malformedTemplate => "prompt template does not parse: " ++ detail
  | .failedRendering => "prompt template failed to render: " ++ detail
  | .malformedDocument => "rendered prompt is not a valid prompt document: " ++ detail

/-- A message as templates see it, its members in the order of their names. -/
def Message.toVariable (message : Message) : Json.Value :=
  .object [
    ("content", .text message.content),
    ("name", match message.name with | some name => .text name | none => .null),
    ("role", .text message.role.name)]

/-- The name by which templates find the batch. -/
def batchName : String := "inputs"

/-- A template that is ready to render, with the variables of the environment. -/
structure Renderer where
  template : Template
  environment? : String → Option String

namespace Renderer

def ofSource (environment? : String → Option String) (source : String) :
    Except PromptError Renderer :=
  match Template.compile source with
  | some template => .ok { template, environment? }
  | none => .error .malformedTemplate

def ofFile (world : World) (path : String) : Except PromptError Renderer :=
  match world.readText path with
  | .ok source => ofSource world.variableText? source
  | .error cause => .error (.unreadable path cause)

/-- The text that a batch renders to. -/
def renderText (renderer : Renderer) (batch : List Message) :
    Except (Stop PromptError) String :=
  let given := [(batchName, Json.Value.list (batch.map Message.toVariable))]
  (renderer.template.render renderer.environment? given).mapError
    (.map fun () => .failedRendering)

/-- The prompt that a rendered text describes. -/
def readPrompt (text : String) : Except PromptError Prompt :=
  match Prompt.ofYaml? text with
  | some prompt => .ok prompt
  | none => .error .malformedDocument

/-- The prompt that a batch is turned into. -/
def render (renderer : Renderer) (batch : List Message) : Except (Stop PromptError) Prompt := do
  (readPrompt (← renderer.renderText batch)).mapError .failed

end Renderer

end PromptRelay
