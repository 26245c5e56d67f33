import PromptRelay.Proofs.Json.Shapes
import PromptRelay.Wire

/-!
Contract: payloads say exactly what they were written from.

Owns:
- that messages, lists of messages and prompts are read back from their payloads, and
  prompts from their indented texts;
- the canonical payload of what a payload says.

Does not own: payloads that nothing here has written, save that they have a canonical
payload if they can be read.
-/

namespace PromptRelay

open Json
open Text (Bytes bytes)

/-! ## Messages and prompts -/

section

variable {gap : List Char} {written : Value → List Char} (puts : PutsGap gap written)

include puts

theorem readRole_reads (role : Role) : Reads readRole (written role.toJson) role := by
  apply puts.reads_choice
  cases role <;> decide

theorem readOperator_reads (operator : Operator) :
    Reads readOperator (written (.text operator.name)) operator := by
  apply puts.reads_choice
  cases operator <;> decide

/-- All members of a message are strings or `null`. -/
theorem message_drafts (message : Message) :
    Drafts messageRecord.fields written messageRecord.draft
      [("role", message.role.toJson),
        ("name", match message.name with | some name => .text name | none => .null),
        ("content", .text message.content)]
      { role := some message.role
        name := some message.name
        content := some message.content } := by
  have role := reads_update (readRole_reads puts message.role)
    fun role => ({ role := some role } : MessageDraft)
  have name := reads_update (puts.reads_optional message.name)
    fun name => ({ role := some message.role, name := some name } : MessageDraft)
  have content := reads_update (puts.reads_text message.content)
    fun content => ({ role := some message.role, name := some message.name,
                      content := some content } : MessageDraft)
  exact .cons rfl rfl role (.cons rfl rfl name (.cons rfl rfl content (.nil _)))

theorem prompt_drafts (prompt : Prompt)
    (inputs : Reads (readList readMessage) (written (.list (prompt.inputs.map Message.toJson)))
      prompt.inputs) :
    Drafts promptRecord.fields written promptRecord.draft
      [("operator", .text prompt.operator.name),
        ("inputs", .list (prompt.inputs.map Message.toJson))]
      { operator := some prompt.operator, inputs := some prompt.inputs } := by
  have operator := reads_update (readOperator_reads puts prompt.operator)
    fun operator => ({ operator := some operator } : PromptDraft)
  have inputs := reads_update inputs
    fun inputs => ({ operator := some prompt.operator, inputs := some inputs } : PromptDraft)
  exact .cons rfl rfl operator (.cons rfl rfl inputs (.nil _))

end

theorem readMessage_reads (message : Message) :
    Reads readMessage (write message.toJson) message :=
  readRecord_reads (message_drafts putsGap_write message) rfl

theorem readMessages_reads (messages : List Message) :
    Reads (readList readMessage) (write (.list (messages.map Message.toJson))) messages :=
  readList_reads (fun _ => ⟨_, rfl⟩) readMessage_reads messages

theorem readPrompt_reads (prompt : Prompt) : Reads readPrompt (write prompt.toJson) prompt :=
  readRecord_reads (prompt_drafts putsGap_write prompt (readMessages_reads prompt.inputs)) rfl

theorem readMessage_reads_indented (depth : Nat) (message : Message) :
    Reads readMessage (writeIndented depth message.toJson) message :=
  readRecord_reads_indented (message_drafts (putsGap_writeIndented (depth + 1)) message) rfl

theorem readPrompt_reads_indented (depth : Nat) (prompt : Prompt) :
    Reads readPrompt (writeIndented depth prompt.toJson) prompt := by
  have puts := putsGap_writeIndented (depth + 1)
  have inputs := readList_reads_indented (fun _ => ⟨_, rfl⟩)
    (readMessage_reads_indented (depth + 2)) prompt.inputs
  have afterGap := inputs.after_gap (readList_passesGaps readMessage) puts.isGap
  exact readRecord_reads_indented (prompt_drafts puts prompt afterGap) rfl

/-! ## Payloads -/

/-- The payload that is written for what a payload says. -/
def canonical (α : Type) [Payload α] (payload : Bytes) : Except WireError Bytes :=
  (decode α payload).map fun value => bytes (encode value)

/-- Values that their payloads say exactly. -/
structure RoundTrips (α : Type) [Payload α] : Prop where
  decode_encode : ∀ value : α, decode α (bytes (encode value)) = .ok value
  /-- Different values have different payloads. -/
  encode_injective : ∀ left right : α, bytes (encode left) = bytes (encode right) → left = right
  /-- What can be read has a canonical payload, which says the same and is its own. -/
  exists_canonical : ∀ (payload : Bytes) (value : α), decode α payload = .ok value →
    ∃ canon, canonical α payload = .ok canon ∧ decode α canon = .ok value ∧
      canonical α canon = .ok canon
  /-- Payloads that say the same have one canonical payload, and no others do. -/
  canonical_eq_iff : ∀ (left right : Bytes) (leftValue rightValue : α),
    decode α left = .ok leftValue → decode α right = .ok rightValue →
    (canonical α left = canonical α right ↔ leftValue = rightValue)

theorem decode_of_reads [Payload α] {value : α} {text : List Char}
    (reads : Reads Payload.read text value) :
    decode α (bytes (String.ofList text)) = .ok value := by
  rw [decode, Text.bytes_ofList, readWhole_of_reads reads]
  rfl

theorem decode_encode_of_reads [Payload α] {value : α}
    (reads : Reads Payload.read (write (Payload.toJson value)) value) :
    decode α (bytes (encode value)) = .ok value :=
  decode_of_reads reads

/-- The indented text of a prompt is a payload as well. -/
theorem decode_indented (prompt : Prompt) :
    decode Prompt (bytes (indented prompt.toJson)) = .ok prompt :=
  decode_of_reads (readPrompt_reads_indented 0 prompt)

/-- All of it follows from reading back what is written, before anything else. -/
theorem roundTrips_of_reads [Payload α]
    (reads : ∀ value : α, Reads Payload.read (write (Payload.toJson value)) value) :
    RoundTrips α := by
  have decodes : ∀ value : α, decode α (bytes (encode value)) = .ok value :=
    fun value => decode_encode_of_reads (reads value)
  have canonicalOf : ∀ (payload : Bytes) (value : α), decode α payload = .ok value →
      canonical α payload = .ok (bytes (encode value)) := by
    intro payload value decoded
    rw [canonical, decoded]
    rfl
  have injective : ∀ left right : α, bytes (encode left) = bytes (encode right) → left = right := by
    intro left right same
    have decoded := decodes left
    rw [same, decodes right] at decoded
    exact (Except.ok.inj decoded).symm
  refine ⟨decodes, injective, ?_, ?_⟩
  · intro payload value decoded
    exact ⟨_, canonicalOf payload value decoded, decodes value, canonicalOf _ value (decodes value)⟩
  · intro left right leftValue rightValue leftDecoded rightDecoded
    rw [canonicalOf left leftValue leftDecoded, canonicalOf right rightValue rightDecoded]
    constructor
    · intro same
      exact injective leftValue rightValue (Except.ok.inj same)
    · rintro rfl
      rfl

/-- Messages with any role, name and content, lists of them, and prompts are what their
payloads are read as. -/
theorem payloads_roundTrip :
    RoundTrips Message ∧ RoundTrips (List Message) ∧ RoundTrips Prompt :=
  ⟨roundTrips_of_reads readMessage_reads, roundTrips_of_reads readMessages_reads,
    roundTrips_of_reads readPrompt_reads⟩

/-- An empty name is not an absent one, and a control character comes back. -/
example : (decode Message (bytes (encode
    { role := Role.user, name := some "", content := "\"\\\n\x00𝄞" : Message }))).toOption =
      some { role := .user, name := some "", content := "\"\\\n\x00𝄞" } := by
  decide +kernel

end PromptRelay
