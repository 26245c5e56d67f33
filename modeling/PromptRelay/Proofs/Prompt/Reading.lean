import PromptRelay.Prompt.Document
import PromptRelay.Proofs.Prompt.Lines

/-!
Contract: what a prompt that lists the messages of a batch is read as.

Owns:
- the nodes that its tokens form, one for each entry;
- the prompt that its nodes describe, in which no message has a name.

Does not own: the text and its tokens, and what becomes of the contents in them.
-/

namespace PromptRelay.Prompt

open Yaml

/-! ## Nodes -/

def entryNode (message : Message) : Node :=
  .mapping {} [
    (.scalar {} "role" true, .scalar {} message.role.name true),
    (.scalar {} "content" true, .scalar {} message.content false)]

/-- The node of the entries. Without entries none is written. -/
def entriesNode : (inputs : List Message) → Node
  | [] => Composer.emptyScalar
  | inputs => .sequence {} (inputs.map entryNode)

def promptNode (inputs : List Message) : Node :=
  .mapping {} [
    (.scalar {} "operator" true, .scalar {} "Message" true),
    (.scalar {} "inputs" true, entriesNode inputs)]

section

variable (anchors : List (String × Nat)) (handles : List (String × String))

/-- An entry, after its mark. Its tokens have one shape, so that the composer takes as many
steps for each message. -/
theorem nodeUnless_entry (fuel : Nat) (message : Message) (rest : List Token) :
    Composer.nodeUnless [.blockEntry, .blockEnd] true false (fuel + 8)
        { tokens := (entryTokens message).tail ++ .blockEnd :: rest, anchors, handles } =
      some (entryNode message, { tokens := rest, anchors, handles }) :=
  rfl

theorem blockItems_entries (fuel : Nat) (inputs : List Message) (rest : List Token) :
    Composer.blockItems (fuel + 9 + inputs.length)
        { tokens := inputs.flatMap (entryTokens · ++ [.blockEnd]) ++ .blockEnd :: rest
          anchors, handles } =
      some (inputs.map entryNode, { tokens := rest, anchors, handles }) := by
  induction inputs with
  | nil => rfl
  | cons input inputs inductionHypothesis =>
      have divided : (input :: inputs).flatMap (entryTokens · ++ [.blockEnd]) ++
          .blockEnd :: rest = .blockEntry :: ((entryTokens input).tail ++ .blockEnd ::
            (inputs.flatMap (entryTokens · ++ [.blockEnd]) ++ .blockEnd :: rest)) := by
        simp [entryTokens]
      have fuelLeft : fuel + 9 + (input :: inputs).length =
          fuel + 1 + inputs.length + 8 + 1 := by
        rw [List.length_cons]
        omega
      have others : fuel + 1 + inputs.length + 8 = fuel + 9 + inputs.length := by
        omega
      rw [divided, fuelLeft, Composer.blockItems]
      dsimp only [Composer.skip, List.tail_cons]
      rw [nodeUnless_entry, others]
      dsimp only [Option.bind_eq_bind, Option.bind_some]
      rw [inductionHypothesis]
      rfl

/-- The mapping of the whole prompt. -/
theorem node_prompt (fuel : Nat) (inputs : List Message) :
    Composer.node true false (fuel + 9 + inputs.length + 6)
        { tokens := promptTokens inputs, anchors, handles } =
      some (promptNode inputs, { tokens := [.streamEnd], anchors, handles }) := by
  cases inputs with
  | nil => rfl
  | cons input inputs =>
      let tokens := (input :: inputs).flatMap (entryTokens · ++ [.blockEnd]) ++
        .blockEnd :: [.blockEnd, .streamEnd]
      have items := blockItems_entries anchors handles fuel (input :: inputs)
        [.blockEnd, .streamEnd]
      have entries : Composer.blockValue (fuel + 9 + (input :: inputs).length + 3)
          { tokens := .value :: .blockSequence :: tokens, anchors, handles } =
            some (entriesNode (input :: inputs),
              { tokens := [.blockEnd, .streamEnd], anchors, handles }) := by
        change (Composer.blockItems (fuel + 9 + (input :: inputs).length)
          { tokens, anchors, handles }).bind _ = _
        rw [items]
        rfl
      have divided : promptTokens (input :: inputs) =
          [.blockMapping, .key, .scalar "operator" true, .value, .scalar "Message" true, .key,
            .scalar "inputs" true] ++ .value :: .blockSequence :: tokens := by
        simp [promptTokens, entriesTokens, tokens]
      -- Only the value of the second key goes deeper than the shape of the text tells.
      rw [divided]
      change (((Composer.blockValue (fuel + 9 + (input :: inputs).length + 3)
        { tokens := .value :: .blockSequence :: tokens, anchors, handles }).bind _).bind _).bind _
          = _
      rw [entries]
      rfl

end

theorem length_promptTokens (inputs : List Message) :
    inputs.length + 10 ≤ (promptTokens inputs).length := by
  have entries : inputs.length ≤ (entriesTokens inputs).length := by
    cases inputs with
    | nil => exact Nat.le_refl 0
    | cons input inputs =>
        simp [entriesTokens, entryTokens, List.length_flatMap, List.map_const']
        omega
  rw [promptTokens, List.length_append, List.length_append]
  change inputs.length + 10 ≤ 8 + (entriesTokens inputs).length + 2
  omega

theorem document?_promptTokens (inputs : List Message) :
    Composer.document? (promptTokens inputs) = some (promptNode inputs) := by
  obtain ⟨fuel, enough⟩ : ∃ fuel,
      4 * (promptTokens inputs).length + 4 = fuel + 9 + inputs.length + 6 := by
    have long := length_promptTokens inputs
    exact ⟨4 * (promptTokens inputs).length - inputs.length - 11, by omega⟩
  change ((Composer.node true false (4 * (promptTokens inputs).length + 4)
    { tokens := promptTokens inputs, handles := Composer.defaultHandles }).bind _) = _
  rw [enough, node_prompt]
  rfl

/-! ## Prompts -/

/-- A message as an entry shows it. -/
def anonymous (message : Message) : Message :=
  { message with name := none }

theorem readMessage?_entryNode (document : Node) (message : Message) :
    readMessage? document (entryNode message) = some (anonymous message) := by
  obtain ⟨role, name, content⟩ := message
  cases role <;> rfl

theorem ofNode?_promptNode (inputs : List Message) :
    ofNode? (promptNode inputs) =
      some { operator := .message, inputs := inputs.map anonymous } := by
  have messages (document : Node) : (inputs.map entryNode).mapM (readMessage? document) =
      some (inputs.map anonymous) := by
    have each : readMessage? document ∘ entryNode = fun message => pure (anonymous message) :=
      funext fun message => readMessage?_entryNode document message
    rw [List.mapM_map, each, List.mapM_pure]
    rfl
  cases inputs with
  | nil => rfl
  | cons input inputs =>
      change (((input :: inputs).map entryNode).mapM
        (readMessage? (promptNode (input :: inputs)))).bind _ = _
      rw [messages]
      rfl

/-- A message that is read back has no name. -/
theorem readBack?_anonymous (message : Message) :
    (readBack? message).map anonymous = readBack? message := by
  rw [readBack?]
  split
  · rw [foldedMessage?, Option.map_map]
    rfl
  · rfl

theorem map_mapM (f : α → Option β) (g : β → γ) (values : List α) :
    (values.mapM f).map (List.map g) = values.mapM fun value => (f value).map g := by
  induction values with
  | nil => rfl
  | cons value values inductionHypothesis =>
      rw [List.mapM_cons, List.mapM_cons, ← inductionHypothesis]
      cases f value with
      | none => rfl
      | some _ => cases values.mapM f <;> rfl

/-- The text of a prompt is read as the prompt of the messages that are read back. -/
theorem ofYaml?_promptText (batch : List Message) :
    ofYaml? (String.ofList (promptText batch)) =
      (batch.mapM readBack?).map fun inputs => { operator := .message, inputs } := by
  have unnamed := map_mapM readBack? anonymous batch
  rw [funext readBack?_anonymous] at unnamed
  rw [ofYaml?, Node.ofText?, tokens?_promptText, ← unnamed]
  dsimp only [Option.bind_eq_bind]
  cases batch.mapM readBack? with
  | none => rfl
  | some inputs =>
      simp only [Option.map_some, Option.bind_some, document?_promptTokens, ofNode?_promptNode,
        List.map_map]
      rfl

end PromptRelay.Prompt
