import PromptRelay.Proofs.Prompt.Reading
import PromptRelay.Proofs.Prompt.Rendering

/-!
Contract: which contents of messages survive the way through a prompt document.

Owns:
- the prompt that the message template makes of a batch, and when there is none;
- the contents that come back as they were.

Does not own: templates other than the message template.

JSON leaves more characters as they are than a document may hold, and it knows fewer line
breaks than the reader of the document does. No message reaches beyond its own entry: the
operator, the number of the messages, their order and their roles are always kept.
-/

namespace PromptRelay.Prompt

open Yaml

/-! ## Prompts -/

/-- The renderer of the message template. -/
def messageRenderer (environment? : String → Option String) : Renderer :=
  { template := messageTemplate, environment? }

theorem ofSource_messageSource (environment? : String → Option String) :
    Renderer.ofSource environment? messageSource = .ok (messageRenderer environment?) := by
  rw [Renderer.ofSource, compile_messageSource]
  rfl

theorem renderText_messageRenderer (environment? : String → Option String)
    (batch : List Message) :
    (messageRenderer environment?).renderText batch = .ok (String.ofList (promptText batch)) := by
  rw [Renderer.renderText]
  dsimp only [messageRenderer]
  rw [render_messageTemplate, Result.mapError_ok]

/-- A prompt has the messages as they are read back. There is none if one of them is not. -/
theorem render_messageRenderer (environment? : String → Option String) (batch : List Message) :
    (messageRenderer environment?).render batch =
      match batch.mapM readBack? with
      | some inputs => .ok { operator := .message, inputs }
      | none => .error (.failed .malformedDocument) := by
  rw [Renderer.render, renderText_messageRenderer]
  rw [Result.ok_bind, Renderer.readPrompt, ofYaml?_promptText]
  cases batch.mapM readBack? <;> rfl

/-- A message that is read back keeps its role. -/
theorem role_of_readBack? {message input : Message} (read : readBack? message = some input) :
    input.role = message.role := by
  rw [readBack?] at read
  split at read
  · rw [foldedMessage?, Option.map_eq_some_iff] at read
    obtain ⟨content, -, rfl⟩ := read
    rfl
  · cases read

theorem roles_of_mapM_readBack? {batch inputs : List Message}
    (read : batch.mapM readBack? = some inputs) :
    inputs.map (·.role) = batch.map (·.role) := by
  induction batch generalizing inputs with
  | nil =>
      cases read
      rfl
  | cons message batch inductionHypothesis =>
      rw [List.mapM_cons, Option.bind_eq_bind, Option.bind_eq_some_iff] at read
      obtain ⟨input, isInput, read⟩ := read
      obtain ⟨others, areOthers, same⟩ := Option.bind_eq_some_iff.mp read
      cases same
      rw [List.map_cons, List.map_cons, role_of_readBack? isInput, inductionHypothesis areOthers]

/-- If there is a prompt, it has as many messages as the batch, with the same roles in the same
order, whatever their contents are. -/
theorem roles_of_render {environment? : String → Option String} {batch : List Message}
    {prompt : Prompt} (rendered : (messageRenderer environment?).render batch = .ok prompt) :
    prompt.operator = .message ∧
      prompt.inputs.map (·.role) = batch.map (·.role) := by
  rw [render_messageRenderer] at rendered
  cases isRead : batch.mapM readBack? with
  | none =>
      rw [isRead] at rendered
      cases rendered
  | some inputs =>
      rw [isRead] at rendered
      cases rendered
      exact ⟨rfl, roles_of_mapM_readBack? isRead⟩

/-! ## Contents -/

/-- A content of readable characters, among which is no line break that JSON does not escape. -/
def IsPlain (content : String) : Prop :=
  ∀ c ∈ content.toList, isReadable c = true ∧ (isRawGap c = true → c = ' ')

/-- A plain content is read back as it is. -/
theorem readBack?_of_isPlain {message : Message} (plain : IsPlain message.content) :
    readBack? message = some (anonymous message) := by
  have readable : message.content.toList.all isReadable = true :=
    List.all_eq_true.mpr fun c member => (plain c member).1
  have folded : folded? false {} message.content.toList = some message.content.toList :=
    folded?_of_noBreaks {} rfl fun c member => (plain c member).2
  rw [readBack?, if_pos readable, foldedMessage?, folded, Option.map_some, String.ofList_toList]
  rfl

/-- Quotes, line feeds and what other languages mark up with are plain. -/
example : readBack? (.user "He said \"<hi>\":\n\t- & \x7b# #\x7d") =
    some (.user "He said \"<hi>\":\n\t- & \x7b# #\x7d") := by
  rfl

theorem mapM_eq_map_iff (f : α → Option β) (g : α → β) (values : List α) :
    values.mapM f = some (values.map g) ↔ ∀ value ∈ values, f value = some (g value) := by
  induction values with
  | nil => simp
  | cons value values inductionHypothesis =>
      rw [List.mapM_cons, List.map_cons, List.forall_mem_cons, ← inductionHypothesis]
      cases f value with
      | none => simp
      | some image => cases values.mapM f <;> simp

/-- The message template renders every batch. There is a prompt if every message can be read
back, and it has each message as it is read back by itself: the operator, the number of the
messages, their order and their roles do not depend on any content. The prompt is the batch,
without names, just if every message is read back as it was, which plain contents are. -/
theorem message_prompt (environment? : String → Option String) (batch : List Message) :
    ∃ renderer, Renderer.ofSource environment? messageSource = .ok renderer ∧
      renderer.renderText batch = .ok (String.ofList (promptText batch)) ∧
      renderer.render batch =
        (match batch.mapM readBack? with
        | some inputs => .ok { operator := .message, inputs }
        | none => .error (.failed .malformedDocument)) ∧
      (∀ prompt, renderer.render batch = .ok prompt →
        prompt.operator = .message ∧ prompt.inputs.map (·.role) = batch.map (·.role)) ∧
      (renderer.render batch = .ok { operator := .message, inputs := batch.map anonymous } ↔
        ∀ message ∈ batch, readBack? message = some (anonymous message)) ∧
      ∀ message ∈ batch, IsPlain message.content → readBack? message = some (anonymous message) := by
  have prompt := render_messageRenderer environment? batch
  refine ⟨messageRenderer environment?, ofSource_messageSource environment?,
    renderText_messageRenderer environment? batch, prompt,
    fun _ rendered => roles_of_render rendered, ?_,
    fun _ _ plain => readBack?_of_isPlain plain⟩
  rw [prompt, ← mapM_eq_map_iff]
  cases batch.mapM readBack? <;> simp

/-- A control character that JSON leaves as it is makes the prompt fail, and a line break that
it leaves becomes a space. -/
theorem message_prompt_unfaithful :
    ∃ renderer, Renderer.ofSource (fun _ => none) messageSource = .ok renderer ∧
      renderer.render [.user "\x7f"] = .error (.failed .malformedDocument) ∧
      renderer.render [.user "a\x85b"] =
        .ok { operator := .message, inputs := [.user "a b"] } := by
  refine ⟨messageRenderer fun _ => none, ofSource_messageSource _, ?_, ?_⟩
  · rw [render_messageRenderer]
    rfl
  · rw [render_messageRenderer]
    rfl

end PromptRelay.Prompt
