import PromptRelay.Messenger.Basic

/-!
Contract: transports of messages over transports of bytes.

Owns:
- the operations of a byte transport;
- reading and writing messages as payloads over it, with disabled sides.

Does not own: brokers.
-/

namespace PromptRelay

/-- The operations of a transport of payloads. -/
structure ByteMessenger (σ : Type) where
  /-- The next payload, or none if there is none for now. -/
  consume : Transport σ (Option Text.Bytes)
  produce : Text.Bytes → Transport σ Unit
  flush : Transport σ Unit
  terminate : Transport σ Unit

namespace ByteMessenger

/-- The message that a payload spells. -/
def readPayload (payload : Text.Bytes) : Transport σ Message :=
  .ofExcept ((decode Message payload).mapError .wire)

/-- The payload of a message. -/
def payloadOf (message : Message) : Text.Bytes :=
  Text.bytes (encode message)

/-- Messages over payloads. The byte transport is asked only for a side that is
not disabled. -/
def toMessenger (backend : ByteMessenger σ) (topics : Topics) (sourceMinimum : Nat) :
    Messenger σ where
  sourceMinimum
  consume :=
    if topics.hasSource then do
      match ← backend.consume with
      | none => pure none
      | some payload => do
        let message ← readPayload payload
        pure (some message)
    else
      pure none
  produce message :=
    if topics.hasSink then backend.produce (payloadOf message) else pure ()
  flush := backend.flush
  terminate := backend.terminate

end ByteMessenger

end PromptRelay
