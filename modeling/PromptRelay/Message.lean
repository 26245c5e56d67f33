/-!
Contract: the messages that travel, and the prompt that a batch of them is
turned into.

Owns:
- the roles and the message, one of which travels per transport record;
- the operators and the prompt: what the completion backend is asked, and how
  its answer is to be read.

Does not own: their wire format.
-/

namespace PromptRelay

/-- Who a message is from. -/
inductive Role where
  | system
  | user
  | assistant
deriving DecidableEq, Repr, Inhabited

def Role.name : Role → String
  | .system => "system"
  | .user => "user"
  | .assistant => "assistant"

/-- A role-tagged text, optionally with the name of the participant. -/
structure Message where
  role : Role
  name : Option String := none
  content : String
deriving DecidableEq, Repr, Inhabited

namespace Message

def system (content : String) : Message := { role := .system, content }

def user (content : String) : Message := { role := .user, content }

def assistant (content : String) : Message := { role := .assistant, content }

end Message

/-- How the answer to a prompt is read. -/
inductive Operator where
  /-- It is the position of a message of the batch. -/
  | index
  /-- It is the text of a new message. -/
  | message
deriving DecidableEq, Repr, Inhabited

def Operator.name : Operator → String
  | .index => "Index"
  | .message => "Message"

/-- What a batch is turned into: the messages that the backend is sent, and the
operator that its answer is read by. -/
structure Prompt where
  operator : Operator := .message
  inputs : List Message
deriving DecidableEq, Repr, Inhabited

end PromptRelay
