import PromptRelay.Detail
import PromptRelay.Json.Record
import PromptRelay.Json.Value
import PromptRelay.Message

/-!
Contract: messages, lists of messages and prompts as JSON payloads.

Owns:
- the JSON value of each, and the payload that is its compact text;
- reading a payload back, and why a payload is refused.

Does not own: JSON itself, and the transport that carries payloads.
-/

namespace PromptRelay

open Json Text

/-- Why a payload could not be read. -/
structure WireError where
  fault : Fault
deriving DecidableEq, Repr

def WireError.message (_ : WireError) : String :=
  "malformed wire payload: " ++ detail

/-! ## Writing -/

def Role.toJson (role : Role) : Json.Value := .text role.name

def Message.toJson (message : Message) : Json.Value :=
  .object [
    ("role", message.role.toJson),
    ("name", match message.name with | some name => .text name | none => .null),
    ("content", .text message.content)]

def Prompt.toJson (prompt : Prompt) : Json.Value :=
  .object [
    ("operator", .text prompt.operator.name),
    ("inputs", .list (prompt.inputs.map Message.toJson))]

/-! ## Reading -/

def readRole : Reader Role :=
  readChoice [("system", .system), ("user", .user), ("assistant", .assistant)]

def readOperator : Reader Operator :=
  readChoice [("Index", .index), ("Message", .message)]

/-- The members of a message as far as they have been read. -/
structure MessageDraft where
  role : Option Role := none
  name : Option (Option String) := none
  content : Option String := none
deriving DecidableEq, Repr

def messageRecord : Record MessageDraft Message where
  fields := [
    { name := "role"
      isSet := fun draft => draft.role.isSome
      read := fun draft input => do
        let (role, rest) ← readRole input
        .ok ({ draft with role := some role }, rest)
      mayLack := false },
    { name := "name"
      isSet := fun draft => draft.name.isSome
      read := fun draft input => do
        let (name, rest) ← readOptional readString input
        .ok ({ draft with name := some name }, rest)
      mayLack := true },
    { name := "content"
      isSet := fun draft => draft.content.isSome
      read := fun draft input => do
        let (content, rest) ← readString input
        .ok ({ draft with content := some content }, rest)
      mayLack := false }]
  draft := {}
  finish := fun draft => do
    some { role := ← draft.role, name := draft.name.getD none, content := ← draft.content }

def readMessage : Reader Message := readRecord messageRecord

/-- The members of a prompt as far as they have been read. -/
structure PromptDraft where
  operator : Option Operator := none
  inputs : Option (List Message) := none
deriving DecidableEq, Repr

def promptRecord : Record PromptDraft Prompt where
  fields := [
    { name := "operator"
      isSet := fun draft => draft.operator.isSome
      read := fun draft input => do
        let (operator, rest) ← readOperator input
        .ok ({ draft with operator := some operator }, rest)
      mayLack := true },
    { name := "inputs"
      isSet := fun draft => draft.inputs.isSome
      read := fun draft input => do
        let (inputs, rest) ← readList readMessage input
        .ok ({ draft with inputs := some inputs }, rest)
      mayLack := false }]
  draft := {}
  finish := fun draft => do
    some { operator := draft.operator.getD .message, inputs := ← draft.inputs }

def readPrompt : Reader Prompt := readRecord promptRecord

/-! ## Payloads -/

/-- A type whose values travel as JSON payloads. -/
class Payload (α : Type) where
  toJson : α → Json.Value
  read : Reader α

instance : Payload Message := ⟨Message.toJson, readMessage⟩

instance : Payload (List Message) :=
  ⟨fun messages => .list (messages.map Message.toJson), readList readMessage⟩

instance : Payload Prompt := ⟨Prompt.toJson, readPrompt⟩

/-- The payload of a value: its compact JSON text. -/
def encode [Payload α] (value : α) : String :=
  compact (Payload.toJson value)

/-- The value that the bytes of a payload spell. -/
def decode (α : Type) [Payload α] (payload : Bytes) : Except WireError α :=
  (readWhole (Payload.read (α := α)) payload).mapError WireError.mk

end PromptRelay
