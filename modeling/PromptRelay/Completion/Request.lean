import PromptRelay.Completion.Url
import PromptRelay.Settings.Validation
import PromptRelay.Wire

/-!
Contract: what a completion backend is asked.

Owns:
- the address that a backend is asked at;
- the body that asks for a completion, and the credentials beside it;
- which requests can be sent at all.

Does not own: sending, and the answer.
-/

namespace PromptRelay

open Json

namespace Backend

/-- Puts a path below a base URL, whose last slashes do not count. -/
def endpoint (baseUrl path : String) : String :=
  String.ofList (baseUrl.toList.reverse.dropWhile (· = '/')).reverse ++ "/" ++ path

def url : Backend → String
  | .ollama baseUrl _ => endpoint baseUrl "api/chat"
  | .openAi _ baseUrl _ => endpoint baseUrl "chat/completions"

end Backend

namespace Completion

/-- A message as it is asked about; an absent name is left out. -/
def chatMessage (message : Message) : Value :=
  .object ([("role", message.role.toJson)] ++
    (match message.name with | some name => [("name", .text name)] | none => []) ++
    [("content", .text message.content)])

/-- The members of a body that both backends are sent. -/
def chatMembers (modelName : String) (inputs : List Message) : List (String × Value) :=
  [("model", .text modelName), ("messages", .list (inputs.map chatMessage))]

/-- A request for a completion. -/
structure Request where
  url : String
  authorization : Option String
  body : String
deriving DecidableEq, Repr

/-- What the header with the credentials holds. -/
def bearer (apiKey : String) : String := "Bearer " ++ apiKey

def request (backend : Backend) (inputs : List Message) : Request :=
  let members := chatMembers backend.modelName inputs
  match backend with
  | .ollama .. => {
      url := backend.url
      authorization := none
      body := compact (.object (members ++ [("stream", .boolean false)])) }
  | .openAi apiKey .. => {
      url := backend.url
      authorization := some (bearer apiKey)
      body := compact (.object members) }

/-- Whether a header may hold a text. -/
def isHeaderText (text : String) : Bool :=
  text.toList.all fun c => c = '\t' || (0x20 ≤ c.toNat && c.toNat ≠ 0x7F)

/-- The address of a request that can be sent. -/
def Request.target? (request : Request) : Option Url :=
  if request.authorization.all isHeaderText then Url.ofText? request.url else none

end Completion

end PromptRelay
