import PromptRelay.Completion.Basic
import PromptRelay.Completion.Request
import PromptRelay.Detail

/-!
Contract: what the answer of a completion backend means.

Owns:
- the shapes of the answers of both backends;
- telling answers, refused credentials and failures apart;
- a whole exchange over a given network.

Does not own: the network.
-/

namespace PromptRelay.Completion

open Json Text

/-! ## Bodies -/

/-- A record of which one member is known. -/
def singleMember (name : String) (read : Reader α) (mayLack : Bool) :
    Record (Option α) (Option α) where
  fields := [{
    name
    isSet := Option.isSome
    read := fun _ input => do
      let (value, rest) ← read input
      .ok (some value, rest)
    mayLack }]
  draft := none
  finish := some

/-- A message of an answer: its content, if it has any. -/
def readContent : Reader (Option String) := fun input => do
  let (content, rest) ←
    readRecord (singleMember "content" (readOptional readString) false) input
  .ok (content.join, rest)

/-- A record that may have a message: the content of that. -/
def readHolder : Reader (Option String) := fun input => do
  let (message, rest) ←
    readRecord (singleMember "message" (readOptional readContent) false) input
  .ok (message.join.join, rest)

/-- A record of choices: the content of the first. -/
def readChoices : Reader (Option String) := fun input => do
  let (choices, rest) ← readRecord (singleMember "choices" (readList readHolder) true) input
  .ok ((choices.getD []).head?.join, rest)

def contentReader : Backend → Reader (Option String)
  | .ollama .. => readHolder
  | .openAi .. => readChoices

/-! ## Answers -/

/-- What a host answers. Without a body the answer was cut short. -/
structure Response where
  status : Nat
  body : Option Bytes
deriving DecidableEq, Repr

/-- What a successful body means. -/
def readBody (backend : Backend) (body : Option Bytes) :
    Except CompletionError (Option Message) :=
  match body.map (readWhole (contentReader backend)) with
  | some (.ok content) => .ok (content.map Message.assistant)
  | _ => .error (.malformedAnswer backend.name detail)

/-- What an answer means: a message, none, or an error. -/
def readResponse (backend : Backend) (response : Response) :
    Except CompletionError (Option Message) :=
  let status := response.status
  if 200 ≤ status && status < 300 then
    readBody backend response.body
  else if status = 401 || status = 403 then
    .error (.authentication backend.name status)
  else
    .error (.unsuccessful backend.name status ((response.body.map ofBytesLossy).getD ""))

/-! ## Exchanges -/

/-- Hosts that answer requests, or do not. -/
abbrev Network := Url → Request → Option Response

/-- Asks a backend for a completion. -/
def complete (network : Network) (backend : Backend) (inputs : List Message) :
    Except CompletionError (Option Message) :=
  let request := request backend inputs
  match request.target?.bind fun url => network url request with
  | some response => readResponse backend response
  | none => .error (.transport backend.name detail)

end PromptRelay.Completion
