import Mathlib.Data.List.Permutation
import PromptRelay.Prompt.Renderer
import PromptRelay.Proofs.Prompt.Lines
import PromptRelay.Proofs.Result

/-!
Contract: the text that the message template renders to.

Owns:
- the message template, which lists the messages of a batch, and its nodes;
- that it renders every batch, and to which text.

Does not own: what the text is read as.
-/

namespace PromptRelay.Prompt

open Json Template

/-! ## Template -/

/-- A template that lists the messages of a batch, each with its role and its content. The
content is written as JSON, which is to make it one scalar of the document. -/
def messageSource : String :=
  "operator: Message\ninputs:\n\x7b% for input in inputs %\x7d\n" ++
    "  - role: \x7b\x7b input.role \x7d\x7d\n" ++
    "    content: \x7b\x7b input.content | json_encode() \x7d\x7d\n\x7b% endfor %\x7d\n"

/-- What stands before the role of a message. -/
def roleLabel : List Char :=
  ['\n', ' ', ' ', '-', ' ', 'r', 'o', 'l', 'e', ':', ' ']

/-- What stands between the role of a message and its content. -/
def contentLabel : List Char :=
  ['\n', ' ', ' ', ' ', ' ', 'c', 'o', 'n', 't', 'e', 'n', 't', ':', ' ']

/-- What stands before the messages. -/
def promptHead : List Char :=
  ['o', 'p', 'e', 'r', 'a', 't', 'o', 'r', ':', ' ', 'M', 'e', 's', 's', 'a', 'g', 'e', '\n',
    'i', 'n', 'p', 'u', 't', 's', ':', '\n']

def roleOf : Expression :=
  .ofTerm (.path { head := "input", steps := [.key "role"] })

def encodedContent : Expression :=
  .mk (.path { head := "input", steps := [.key "content"] }) [.mk "json_encode" []] false

/-- What is rendered for each message. -/
def messageBody : List Node :=
  [.text roleLabel, .output {} roleOf, .text contentLabel, .output {} encodedContent,
    .text ['\n']]

/-- The variable that the batch is given as. -/
def batchPath : Path :=
  { head := batchName, steps := [] }

def messageLoop : Node :=
  .loop {} none "input" (.ofTerm (.path batchPath)) messageBody none {}

def messageNodes : List Node :=
  [.text promptHead, messageLoop, .text ['\n']]

def messageTemplate : Template :=
  { nodes := messageNodes, routines := [], blocks := [] }

set_option maxRecDepth 10000 in
/-- The fuel is left open, so that only the source is gone through. -/
theorem scanNodes_messageSource (fuel : Nat) :
    scanNodes (fuel + 20) true .top messageSource.toList = (messageNodes, []) := by
  cbv

theorem length_messageSource : messageSource.toList.length = 141 := by
  decide +kernel

theorem compile_messageSource : compile messageSource = some messageTemplate := by
  have scanned := scanNodes_messageSource 548
  rw [compile, length_messageSource]
  dsimp only
  rw [scanned]
  rfl

/-! ## Writing -/

/-- A node that writes a text and leaves the scope as it is. -/
def Writes (around : Surroundings) (depth : Nat) (scope : Scope) (node : Node)
    (content : List Char) : Prop :=
  renderNode around depth scope node = .ok { text := String.ofList content, scope }

namespace Writes

variable {around : Surroundings} {depth : Nat} {scope : Scope}

theorem text (content : List Char) : Writes around (depth + 1) scope (.text content) content := by
  rw [Writes, renderNode]

theorem output {expression : Expression} {content : String} (dashes : Dashes)
    (value : evaluate around depth scope expression = .ok (.text content)) :
    Writes around (depth + 1) scope (.output dashes expression) content.toList := by
  rw [Writes, renderNode, value]
  rfl

/-- Nodes that only write render to what they write, one after the other. -/
theorem renderNodes (pieces : List (Node × List Char))
    (writes : ∀ piece ∈ pieces, Writes around depth scope piece.1 piece.2) :
    Template.renderNodes around (depth + 1) scope (pieces.map Prod.fst) =
      .ok { text := String.ofList (pieces.flatMap Prod.snd), scope } := by
  have onward (before : List Char) :
      (pieces.map Prod.fst).foldlM (fun (done : Rendered) node =>
          if done.flow = .onward then do
            let next ← renderNode around depth done.scope node
            .ok { next with text := done.text ++ next.text }
          else
            .ok done) { text := String.ofList before, scope } =
        (.ok { text := String.ofList (before ++ pieces.flatMap Prod.snd), scope } :
          Evaluation Rendered) := by
    induction pieces generalizing before with
    | nil =>
        rw [List.flatMap_nil, List.append_nil]
        rfl
    | cons piece pieces inductionHypothesis =>
        have first : renderNode around depth scope piece.1 =
            .ok { text := String.ofList piece.2, scope } := writes piece List.mem_cons_self
        have others := inductionHypothesis
          (fun other member => writes other (List.mem_cons_of_mem piece member)) (before ++ piece.2)
        rw [List.map_cons, List.foldlM_cons, if_pos rfl, first, List.flatMap_cons,
          ← List.append_assoc]
        rw [String.ofList_append] at others
        exact others
  rw [Template.renderNodes]
  exact onward []

end Writes

/-! ## Body -/

/-- The members of an item of a loop are found by its name. -/
theorem valueOf?_item {itemName name : String} {members : List (String × Value)}
    {value : Value} (scope : Scope) (count position : Nat) (noLoop : itemName ≠ "loop")
    (isMember : members.lookup name = some value) :
    (scope.enter (loopFrame none itemName count position ("", .object members))).valueOf?
        { head := itemName, steps := [.key name] } = some value := by
  have isPart : partAt? [⟨name, false⟩] (.object members) = some value := by
    change (members.lookup name).bind some = some value
    rw [isMember]
    rfl
  have inFrame : (loopFrame none itemName count position ("", .object members)).find? itemName
      [⟨name, false⟩] = some value := by
    simp [Frame.find?, Iteration.find?, loopFrame, noLoop, isPart]
  simp [Scope.valueOf?, Scope.value?, Scope.tokens?, Scope.find?, findInFrames, Scope.enter,
    inFrame]

/-- The scope in which the body is rendered for a message. -/
def messageScope (scope : Scope) (count position : Nat) (message : Message) : Scope :=
  scope.enter (loopFrame none "input" count position ("", message.toVariable))

/-- The text that is rendered for a message. -/
def bodyText (message : Message) : List Char :=
  roleLabel ++ message.role.name.toList ++ contentLabel ++ Json.quoted message.content ++ ['\n']

section

variable (around : Surroundings) (depth : Nat) (scope : Scope) (count position : Nat)
  (message : Message)

theorem input_ne_loop : "input" ≠ "loop" := by
  decide

theorem evaluate_roleOf :
    evaluate around (depth + 2) (messageScope scope count position message) roleOf =
      .ok (.text message.role.name) := by
  have found : (messageScope scope count position message).valueOf?
      { head := "input", steps := [.key "role"] } = some (.text message.role.name) :=
    valueOf?_item scope count position input_ne_loop rfl
  simp [evaluate, roleOf, Expression.ofTerm, Expression.term, Expression.filters,
    Expression.isNegated, termValue, found]

theorem evaluate_encodedContent :
    evaluate around (depth + 2) (messageScope scope count position message) encodedContent =
      .ok (.text (compact (.text message.content))) := by
  have found : (messageScope scope count position message).valueOf?
      { head := "input", steps := [.key "content"] } = some (.text message.content) :=
    valueOf?_item scope count position input_ne_loop rfl
  simp [evaluate, encodedContent, Expression.term, Expression.filters, Expression.isNegated,
    termValue, found, isMarker, Call.name, evaluateArguments, Call.arguments, filter?,
    jsonText]

theorem renderNodes_messageBody :
    renderNodes around (depth + 4) (messageScope scope count position message) messageBody =
      .ok { text := String.ofList (bodyText message)
            scope := messageScope scope count position message } := by
  have role := Writes.output {} (evaluate_roleOf around depth scope count position message)
  have content :=
    Writes.output {} (evaluate_encodedContent around depth scope count position message)
  have rendered := Writes.renderNodes [
      (.text roleLabel, roleLabel), (.output {} roleOf, message.role.name.toList),
      (.text contentLabel, contentLabel),
      (.output {} encodedContent, (compact (.text message.content)).toList),
      (.text ['\n'], ['\n'])]
    (by simp only [List.forall_mem_cons]
        exact ⟨.text _, role, .text _, content, .text _, List.forall_mem_nil _⟩)
  have quoted : (compact (.text message.content)).toList = Json.quoted message.content :=
    String.toList_ofList
  rw [quoted] at rendered
  have same : [roleLabel, message.role.name.toList, contentLabel, Json.quoted message.content,
      ['\n']].flatten = bodyText message := by
    simp [bodyText]
  rw [← same]
  exact rendered

end

/-! ## Loop -/

section

variable (around : Surroundings) (depth : Nat) (scope : Scope)

/-- The items of a batch, each after those before it. The body leaves the scope as it is. -/
theorem foldlM_messages (count position : Nat) (before : List Char) (batch : List Message) :
    ((batch.map fun message => ("", message.toVariable)).zipIdx position).foldlM
        (fun (done : Rendered) (entry, position) =>
          if done.flow = .left then .ok done
          else do
            let frame := loopFrame none "input" count position entry
            let next ← renderNodes around (depth + 4) (done.scope.enter frame) messageBody
            .ok { text := done.text ++ next.text
                  scope := next.scope.leave
                  flow := next.flow })
        { text := String.ofList before, scope } =
      (.ok { text := String.ofList (before ++ batch.flatMap bodyText), scope } :
        Evaluation Rendered) := by
  induction batch generalizing position before with
  | nil =>
      rw [List.flatMap_nil, List.append_nil]
      rfl
  | cons message batch inductionHypothesis =>
      have body := renderNodes_messageBody around depth scope count position message
      have others := inductionHypothesis (position + 1) (before ++ bodyText message)
      rw [String.ofList_append] at others
      have noLeft : ¬ Flow.onward = Flow.left := by decide
      rw [List.map_cons, List.zipIdx_cons, List.foldlM_cons, List.flatMap_cons,
        ← List.append_assoc]
      dsimp only
      rw [messageScope] at body
      rw [if_neg noLeft, body]
      exact others

/-- The loop of the message template writes the texts of all messages. -/
theorem writes_loop (batch : List Message)
    (given : scope.valueOf? batchPath = some (.list (batch.map Message.toVariable))) :
    Writes around (depth + 5) scope messageLoop (batch.flatMap bodyText) := by
  have value : evaluate around (depth + 4) scope (.ofTerm (.path batchPath)) =
      .ok (.list (batch.map Message.toVariable)) := by
    simp [evaluate, Expression.ofTerm, Expression.term, Expression.filters,
      Expression.isNegated, termValue, given]
  have items : iterations? none (.list (batch.map Message.toVariable)) =
      some (batch.map fun message => ("", message.toVariable)) := by
    simp [iterations?]
  rw [Writes, messageLoop, renderNode, value]
  dsimp only [Result.ok_bind]
  rw [items]
  cases batch with
  | nil => rfl
  | cons message batch =>
      let entries := (message :: batch).map fun message => ("", message.toVariable)
      have done := foldlM_messages around depth scope entries.length 0 [] (message :: batch)
      exact congrArg (· >>= fun done => .ok { done with flow := .onward }) done

end

/-! ## The whole text -/

theorem flatMap_bodyText (batch : List Message) :
    '\n' :: batch.flatMap bodyText = batch.flatMap entryText ++ ['\n'] := by
  induction batch with
  | nil => rfl
  | cons message batch inductionHypothesis =>
      have shifted : '\n' :: bodyText message = entryText message ++ ['\n'] := by
        simp [bodyText, entryText, roleLabel, contentLabel]
      rw [List.flatMap_cons, List.flatMap_cons, ← List.cons_append, shifted, List.append_assoc,
        List.singleton_append, inductionHypothesis, List.append_assoc]

theorem promptText_eq (batch : List Message) :
    promptText batch = promptHead ++ (batch.flatMap bodyText ++ ['\n']) := by
  have entries : entriesText batch = '\n' :: batch.flatMap bodyText ++ ['\n'] := by
    rw [flatMap_bodyText, entriesText, List.append_assoc]
    rfl
  rw [promptText, entries]
  simp [promptHead]

/-- The message template renders every batch. -/
theorem render_messageTemplate (environment? : String → Option String) (batch : List Message) :
    messageTemplate.render environment? [(batchName, .list (batch.map Message.toVariable))] =
      .ok (String.ofList (promptText batch)) := by
  let around : Surroundings := { template := messageTemplate, environment? }
  let scope : Scope := {
    frames := [{ kind := .origin }]
    given := [(batchName, .list (batch.map Message.toVariable))] }
  have given : scope.valueOf? batchPath = some (.list (batch.map Message.toVariable)) := by
    simp [scope, batchPath, batchName, Scope.valueOf?, dumpName, Scope.value?, Scope.tokens?,
      Scope.find?, findInFrames, Frame.find?, partAt?, follow?]
  have rendered := Writes.renderNodes [
      (.text promptHead, promptHead), (messageLoop, batch.flatMap bodyText),
      (.text ['\n'], ['\n'])]
    (by simp only [List.forall_mem_cons]
        exact ⟨.text _, writes_loop around 16378 scope batch given, .text _,
          List.forall_mem_nil _⟩)
  rw [promptText_eq]
  exact congrArg (· >>= fun done => .ok done.text) rendered

end PromptRelay.Prompt
