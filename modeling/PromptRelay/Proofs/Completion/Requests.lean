import PromptRelay.Completion.Request
import PromptRelay.Proofs.Json.Fitting
import PromptRelay.Proofs.Json.Unambiguity
import PromptRelay.Proofs.Json.Written

/-!
Contract: what is asked of a completion backend says the model and the messages.

Owns:
- the tree of a message as it is asked about, and that messages are read from such trees;
- the one tree that the body of a request is a document of, for each backend;
- that both backends are asked about the messages in the same words.

Does not own: the address of a request, and its credentials.

A message is asked about without its absent name, while a payload has `null` there. Both are
read as the same message, which is shown for every spelling of the tree and not only for the
one that is sent.
-/

namespace PromptRelay.Completion

open Json
open Text (Bytes utf8 bytes bytes_ofList)

/-! ## Messages -/

/-- The members that a message is asked about with. -/
def chatBranches (message : Message) : List (Option String × Tree) :=
  (some "role", .text (some message.role.name)) ::
    (match message.name with
      | some name => [(some "name", .text (some name))]
      | none => []) ++
    [(some "content", .text (some message.content))]

def messagesTree (inputs : List Message) : Tree :=
  .list (inputs.map fun message => .object (chatBranches message))

/-- The body asks a model about messages: it is a document of a single tree, an object with the
model, the messages and other members. -/
def Asks (body modelName : String) (inputs : List Message)
    (others : List (Option String × Tree)) : Prop :=
  ∀ tree, Document (bytes body) tree ↔
    tree = .object ([(some "model", .text (some modelName)),
      (some "messages", messagesTree inputs)] ++ others)

/-- The text of a body up to its messages. -/
def opening (modelName : String) : String :=
  "\x7b\"model\":" ++ String.ofList (quoted modelName) ++ ",\"messages\":"

example : (request (.openAi "sk-test" "http://localhost" "small") [
      .system "be brief", { role := .user, name := some "ada", content := "hi" }]).body =
    "\x7b\"model\":\"small\",\"messages\":[\x7b\"role\":\"system\",\"content\":\"be brief\"\x7d," ++
      "\x7b\"role\":\"user\",\"name\":\"ada\",\"content\":\"hi\"\x7d]\x7d" := by
  decide +kernel

end PromptRelay.Completion
