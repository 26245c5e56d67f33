import PromptRelay.Action
import PromptRelay.Settings.Basic
import PromptRelay.Settings.Error
import PromptRelay.Wire

/-!
Contract: transports that messages come from and go to.

Owns:
- why a transport fails;
- the source and sink topics, either of which may be disabled;
- the operations of a transport, and the collection of batches, for which room is
  made before anything is consumed.

Does not own: brokers and the bytes that they carry.
-/

namespace PromptRelay

/-- Why a transport fails. -/
inductive MessengerError where
  | connect (reason : String)
  | receive (reason : String)
  | send (reason : String)
  | flush (reason : String)
  | disconnect (reason : String)
  /-- A payload could not be read. -/
  | wire (error : WireError)
  | settings (violation : Violation)
  | unsupported (kind : MessengerKind)
deriving DecidableEq, Repr

def MessengerError.message : MessengerError → String
  | .connect reason => "messenger failed to connect: " ++ reason
  | .receive reason => "messenger read failed: " ++ reason
  | .send reason => "messenger write failed: " ++ reason
  | .flush reason => "messenger flush failed: " ++ reason
  | .disconnect reason => "messenger shutdown failed: " ++ reason
  | .wire error => error.message
  | .settings violation => (SettingsError.invalid violation).message
  | .unsupported kind =>
    "messenger kind `" ++ kind.name ++ "` is not compiled into this build"

/-- Where messages come from and go to. A side without topics is disabled. -/
structure Topics where
  sources : List String := []
  sinks : List String := []
deriving DecidableEq, Repr

namespace Topics

def hasSource (topics : Topics) : Bool := !topics.sources.isEmpty

def hasSink (topics : Topics) : Bool := !topics.sinks.isEmpty

end Topics

def MessengerSettings.topics (settings : MessengerSettings) : Topics :=
  { sources := settings.sources, sinks := settings.sinks }

/-! ## Operations -/

/-- A step of a transport whose state is of type `σ`. -/
abbrev Transport (σ α : Type) := Action MessengerError σ α

/-- Consumes up to the given number of messages. No message ends the batch. -/
def gather (consume : Transport σ (Option α)) : (count : Nat) → Transport σ (List α)
  | 0 => pure []
  | count + 1 => do
    match ← consume with
    | none => pure []
    | some message => do
      let messages ← gather consume count
      pure (message :: messages)

/-- The most messages that room is found for: each takes 56 bytes, and no allocation
exceeds `2 ^ 63 - 8` bytes. So much memory is taken to be there. -/
def roomLimit : Nat := 164703072086692425

/-- Makes room for a whole batch, and consumes it. -/
def collect (consume : Transport σ (Option α)) (count : Nat) : Transport σ (List α) :=
  if count ≤ roomLimit then gather consume count else .halt (.crashed .capacity)

/-- The operations of a transport. -/
structure Messenger (σ : Type) where
  /-- How many messages a batch has, unless it ends early. -/
  sourceMinimum : Nat
  /-- The next message, or none if there is none for now. -/
  consume : Transport σ (Option Message)
  consumeBatch : Transport σ (List Message) := collect consume sourceMinimum
  /-- Writes a message to every sink. -/
  produce : Message → Transport σ Unit
  flush : Transport σ Unit
  /-- Gives back all that the transport holds. -/
  terminate : Transport σ Unit

end PromptRelay
