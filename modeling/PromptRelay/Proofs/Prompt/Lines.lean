import PromptRelay.Message
import PromptRelay.Proofs.Yaml.Lexing

/-!
Contract: the lines of a prompt that lists the messages of a batch.

Owns:
- the text, in which each message has an entry with its role and its quoted content;
- the tokens of the text, or that it has none.

Does not own: how the text came about, and what the tokens mean.
-/

namespace PromptRelay.Prompt

open Yaml

/-! ## Text -/

/-- The entry of a message, from the end of the line before it. -/
def entryText (message : Message) : List Char :=
  ['\n', '\n', ' ', ' '] ++ '-' :: ' ' :: (['r', 'o', 'l', 'e'] ++ ':' :: ' ' ::
    (message.role.name.toList ++ '\n' :: (List.replicate 4 ' ' ++
      (['c', 'o', 'n', 't', 'e', 'n', 't'] ++ ':' :: ' ' :: Json.quoted message.content))))

/-- The entries of a batch, and two line breaks at the end. -/
def entriesText (batch : List Message) : List Char :=
  batch.flatMap entryText ++ ['\n', '\n']

/-- The text of a prompt. -/
def promptText (batch : List Message) : List Char :=
  ['o', 'p', 'e', 'r', 'a', 't', 'o', 'r'] ++ ':' :: ' ' :: (['M', 'e', 's', 's', 'a', 'g', 'e'] ++
    '\n' :: (['i', 'n', 'p', 'u', 't', 's'] ++ ':' :: entriesText batch))

/-! ## Tokens -/

/-- The tokens of an entry, whose mapping is still open. -/
def entryTokens (message : Message) : List Token :=
  [.blockEntry, .blockMapping, .key, .scalar "role" true, .value,
    .scalar message.role.name true, .key, .scalar "content" true, .value,
    .scalar message.content false]

/-- The tokens of the entries of a prompt. Without entries there is no sequence. -/
def entriesTokens : (inputs : List Message) → List Token
  | [] => []
  | inputs => .blockSequence :: inputs.flatMap (fun input => entryTokens input ++ [.blockEnd]) ++
      [.blockEnd]

def promptTokens (inputs : List Message) : List Token :=
  [.blockMapping, .key, .scalar "operator" true, .value, .scalar "Message" true, .key,
    .scalar "inputs" true, .value] ++ entriesTokens inputs ++ [.blockEnd, .streamEnd]

/-- A message with the folded text in place of its content. The name has no line. -/
def foldedMessage? (message : Message) : Option Message :=
  (folded? false {} message.content.toList).map fun content =>
    { role := message.role, content := String.ofList content }

/-! ## Lines -/

theorem isWord_role (role : Role) : IsWord role.name.toList := by
  cases role <;> exact isWord_of_all rfl

/-- The lexer reads an entry after the entries before it, or it fails because of what the
content is folded to. The blocks around the entry are those of the sequence, which the first
entry opens, and of the mapping of the entry before, which ends. -/
theorem run_entry {lexer : Lexer} {message : Message} {rest : List Char} {column : Nat}
    {blocks : List Int} {tokens ends opening : List Token} {indent : Int} {outer : List Int}
    (stands : lexer.Stands (entryText message ++ rest) column blocks false tokens)
    (left : Lexer.leave 2 blocks = (indent :: outer, ends))
    (opened : Lexer.entered .blockSequence 2 (indent :: outer) = ([2, 0, -1], opening)) :
    match foldedMessage? message with
    | none => ∀ fuel, Lexer.run (fuel + 7) lexer = none
    | some input => ∃ (next : Lexer) (nextColumn : Nat),
        next.Stands rest nextColumn [4, 2, 0, -1] false
          (tokens ++ ends ++ opening ++ entryTokens input) ∧
        ∀ fuel, Lexer.run (fuel + 7) lexer = Lexer.run fuel next := by
  have text : entryText message ++ rest = ['\n', '\n', ' ', ' '] ++ '-' :: ([' '] ++
      (['r', 'o', 'l', 'e'] ++ ':' :: ' ' :: (message.role.name.toList ++ '\n' ::
        (List.replicate 4 ' ' ++ ([] ++ (['c', 'o', 'n', 't', 'e', 'n', 't'] ++ ':' :: ' ' ::
          (Json.quoted message.content ++ rest))))))) := by
    simp [entryText]
  rw [text] at stands
  obtain ⟨atMark, entered, leadsToMark⟩ := stands.entry rfl rfl rfl left
  change atMark.Stands _ 3 (Lexer.entered .blockSequence 2 (indent :: outer)).1 true
    (tokens ++ ends ++ (Lexer.entered .blockSequence 2 (indent :: outer)).2 ++ [.blockEntry])
    at entered
  rw [opened] at entered
  obtain ⟨atRole, roleKey, leadsToRole⟩ := entered.key rfl rfl (by decide)
    (isWord_of_all rfl) (by decide) rfl
  obtain ⟨atLine, roleLine, leadsToLine⟩ := roleKey.line (by decide) (isWord_role message.role)
    rfl (by decide)
  obtain ⟨atContent, contentKey, leadsToContent⟩ := roleLine.key rfl rfl (by decide)
    (isWord_of_all rfl) (by decide) rfl
  have opensEntry : Lexer.entered .blockMapping 4 [2, 0, -1] = ([4, 2, 0, -1], [.blockMapping]) :=
    rfl
  have staysInEntry : Lexer.entered .blockMapping 4 [4, 2, 0, -1] = ([4, 2, 0, -1], []) := rfl
  have contentRead := contentKey.quoted (by decide)
  have leads (fuel : Nat) : Lexer.run (fuel + 6) lexer = Lexer.run fuel atContent := by
    rw [leadsToMark, leadsToRole, leadsToLine, leadsToContent]
  rw [foldedMessage?]
  cases isFolded : folded? false {} message.content.toList with
  | none =>
      rw [isFolded] at contentRead
      intro fuel
      rw [leads, contentRead]
  | some content =>
      rw [isFolded] at contentRead
      obtain ⟨next, nextColumn, nextStands, leadsToNext⟩ := contentRead
      refine ⟨next, nextColumn, ?_, fun fuel => ?_⟩
      · have sameTokens : tokens ++ ends ++ opening ++ entryTokens
            { role := message.role, content := String.ofList content } =
            tokens ++ ends ++ opening ++ [.blockEntry] ++ [.blockMapping] ++
              [.key, .scalar "role" true, .value] ++
              [.scalar (String.ofList message.role.name.toList) true] ++ [] ++
              [.key, .scalar "content" true, .value] ++
              [.scalar (String.ofList content) false] := by
          rw [String.ofList_toList]
          simp [entryTokens]
        rw [sameTokens]
        exact nextStands
      · rw [leads, leadsToNext]

/-- One entry and those after it, each of which ends the mapping of the entry before it. The
induction is on the entries to come, and `run_entry` carries the state from one to the next. -/
theorem run_entries {lexer : Lexer} {column : Nat} {blocks outer : List Int} {indent : Int}
    {tokens ends opening : List Token} (message : Message) (batch : List Message)
    (stands : lexer.Stands (entriesText (message :: batch)) column blocks false tokens)
    (left : Lexer.leave 2 blocks = (indent :: outer, ends))
    (opened : Lexer.entered .blockSequence 2 (indent :: outer) = ([2, 0, -1], opening))
    (fuel : Nat) :
    (Lexer.run (fuel + 1 + 7 * (message :: batch).length) lexer).map Lexer.tokens =
      ((message :: batch).mapM foldedMessage?).map fun inputs =>
        tokens ++ ends ++ opening ++ inputs.flatMap (entryTokens · ++ [.blockEnd]) ++
          [.blockEnd, .blockEnd, .streamEnd] := by
  induction batch generalizing lexer column blocks outer indent tokens ends opening message with
  | nil =>
      have atEntry : lexer.Stands (entryText message ++ ['\n', '\n']) column blocks false
          tokens := by
        simpa [entriesText] using stands
      have onward := run_entry atEntry left opened
      have fuelLeft : fuel + 1 + 7 * [message].length = fuel + 1 + 7 := rfl
      rw [fuelLeft, List.mapM_cons]
      cases isFolded : foldedMessage? message with
      | none =>
          rw [isFolded] at onward
          rw [onward]
          rfl
      | some input =>
          rw [isFolded] at onward
          obtain ⟨next, nextColumn, atEnd, leads⟩ := onward
          obtain ⟨last, isLast, lastTokens⟩ := atEnd.finish rfl fuel
          have lastTokens : last.tokens = tokens ++ ends ++ opening ++ entryTokens input ++
            [.blockEnd, .blockEnd] ++ [.blockEnd] ++ [.streamEnd] := lastTokens
          rw [leads, isLast, Option.map_some, lastTokens]
          simp
  | cons second batch inductionHypothesis =>
      have atEntry : lexer.Stands (entryText message ++ entriesText (second :: batch)) column blocks
          false tokens := by
        simpa [entriesText] using stands
      have onward := run_entry atEntry left opened
      have fuelLeft : fuel + 1 + 7 * (message :: second :: batch).length =
          fuel + 1 + 7 * (second :: batch).length + 7 := by
        rw [List.length_cons]
        omega
      rw [fuelLeft, List.mapM_cons]
      cases isFolded : foldedMessage? message with
      | none =>
          rw [isFolded] at onward
          rw [onward]
          rfl
      | some input =>
          rw [isFolded] at onward
          obtain ⟨next, nextColumn, nextStands, leads⟩ := onward
          have ended : Lexer.leave 2 [4, 2, 0, -1] = ([2, 0, -1], [.blockEnd]) := rfl
          have others := inductionHypothesis second nextStands ended rfl
          rw [leads, others]
          cases (second :: batch).mapM foldedMessage? with
          | none => rfl
          | some inputs => simp

/-- The entries of a prompt, after the key that they belong to. -/
theorem run_inputs {lexer : Lexer} {column : Nat} {tokens : List Token} (batch : List Message)
    (stands : lexer.Stands (entriesText batch) column [0, -1] false tokens) (fuel : Nat) :
    (Lexer.run (fuel + 1 + 7 * batch.length) lexer).map Lexer.tokens =
      (batch.mapM foldedMessage?).map fun inputs =>
        tokens ++ entriesTokens inputs ++ [.blockEnd, .streamEnd] := by
  cases batch with
  | nil =>
      have atEnd : lexer.Stands ['\n', '\n'] column [0, -1] false tokens := stands
      obtain ⟨last, isLast, lastTokens⟩ := atEnd.finish rfl fuel
      have lastTokens : last.tokens = tokens ++ [] ++ [.blockEnd] ++ [.streamEnd] := lastTokens
      rw [List.length_nil, Nat.mul_zero, Nat.add_zero, isLast, Option.map_some, lastTokens]
      simp [entriesTokens]
  | cons message batch =>
      have noneEnded : Lexer.leave 2 [0, -1] = ([0, -1], []) := rfl
      have opened : Lexer.entered .blockSequence 2 [0, -1] = ([2, 0, -1], [.blockSequence]) := rfl
      rw [run_entries message batch stands noneEnded opened, List.mapM_cons]
      cases foldedMessage? message with
      | none => rfl
      | some input =>
          cases batch.mapM foldedMessage? with
          | none => rfl
          | some inputs => simp [entriesTokens]

/-! ## The whole text -/

theorem length_entryText (message : Message) : 7 ≤ (entryText message).length := by
  simp [entryText]

theorem length_entriesText (batch : List Message) :
    7 * batch.length ≤ (entriesText batch).length := by
  induction batch with
  | nil => exact Nat.zero_le _
  | cons message batch inductionHypothesis =>
      have entry := length_entryText message
      simp only [entriesText, List.flatMap_cons, List.length_append, List.length_cons] at *
      omega

/-- The lexer reads the text of a prompt, from its start, as the tokens of the prompt. -/
theorem run_promptText (batch : List Message) :
    (Lexer.run ((promptText batch).length + 2) { cursor := Cursor.start (promptText batch) }).map
        Lexer.tokens =
      (batch.mapM foldedMessage?).map promptTokens := by
  have starts : { cursor := Cursor.start (promptText batch) : Lexer }.Stands
      ([] ++ (['o', 'p', 'e', 'r', 'a', 't', 'o', 'r'] ++ ':' :: ' ' ::
        (['M', 'e', 's', 's', 'a', 'g', 'e'] ++ '\n' :: (List.replicate 0 ' ' ++
          ([] ++ (['i', 'n', 'p', 'u', 't', 's'] ++ ':' :: entriesText batch))))))
      0 [-1] true [] :=
    ⟨rfl, rfl, rfl, rfl, rfl, rfl⟩
  obtain ⟨atValue, operatorKey, leadsToValue⟩ := starts.key rfl rfl (by decide)
    (isWord_of_all rfl) (by decide) rfl
  obtain ⟨atLine, operatorLine, leadsToLine⟩ := operatorKey.line (by decide)
    (isWord_of_all rfl) rfl (by decide)
  have endsInputs : endsWord (entriesText batch) = true := by
    cases batch <;> rfl
  obtain ⟨atInputs, inputsKey, leadsToInputs⟩ := operatorLine.key rfl rfl (by decide)
    (isWord_of_all rfl) (by decide) endsInputs
  obtain ⟨fuel, enough⟩ : ∃ fuel,
      (promptText batch).length + 2 = fuel + 1 + 7 * batch.length + 2 + 1 + 2 := by
    have entries := length_entriesText batch
    have beginning : (promptText batch).length = 25 + (entriesText batch).length := by
      simp [promptText]
      omega
    exact ⟨(promptText batch).length - 7 * batch.length - 4, by omega⟩
  rw [enough, leadsToValue, leadsToLine, leadsToInputs, run_inputs batch inputsKey]
  cases batch.mapM foldedMessage? with
  | none => rfl
  | some inputs => rfl

/-! ## Reading -/

/-- A character of a content that is printable or escaped. -/
def isReadable (c : Char) : Bool :=
  c.toNat < 0x20 || isPrintable c

theorem all_isPrintable_escape (c : Char) : (Json.escape c).all isPrintable = isReadable c := by
  unfold Json.escape
  -- Seven characters have an escape of one letter.
  iterate 7
    split
    case isTrue same => subst same; decide
  split
  case isTrue control =>
    have digit : ∀ n < 16, isPrintable (Json.hexDigit n) = true := by decide
    have first := digit (c.toNat / 16) (by omega)
    have second := digit (c.toNat % 16) (by omega)
    have others : ['\\', 'u', '0', '0'].all isPrintable = true := by decide
    rw [isReadable, decide_eq_true control, Bool.true_or, ← others]
    simp [first, second]
  case isFalse noControl =>
    rw [isReadable, decide_eq_false noControl, Bool.false_or, List.all_cons, List.all_nil,
      Bool.and_true]

/-- A message as it is read back from a prompt. Nothing if its content cannot be read. -/
def readBack? (message : Message) : Option Message :=
  if message.content.toList.all isReadable then foldedMessage? message else none

theorem mapM_readBack? (batch : List Message) :
    batch.mapM readBack? =
      if batch.all (·.content.toList.all isReadable) then batch.mapM foldedMessage? else none := by
  induction batch with
  | nil => rfl
  | cons message batch inductionHypothesis =>
      rw [List.mapM_cons, List.mapM_cons, List.all_cons, inductionHypothesis, readBack?]
      cases message.content.toList.all isReadable with
      | false => rfl
      | true =>
          rw [if_pos rfl, Bool.true_and]
          cases batch.all (·.content.toList.all isReadable) with
          | false => cases foldedMessage? message <;> rfl
          | true => rfl

theorem all_isPrintable_entryText (message : Message) :
    (entryText message).all isPrintable = message.content.toList.all isReadable := by
  have roleName : message.role.name.toList.all isPrintable = true := by
    cases message.role <;> decide
  have written := List.all_eq_true.mp (show ['\n', ' ', '-', 'r', 'o', 'l', 'e', ':', 'c', 'n',
    't', '"'].all isPrintable = true from rfl)
  simp [entryText, Json.quoted, List.all_flatMap, all_isPrintable_escape, roleName, written]

theorem all_isPrintable_promptText (batch : List Message) :
    (promptText batch).all isPrintable = batch.all (·.content.toList.all isReadable) := by
  have written := List.all_eq_true.mp (show ['\n', ' ', ':', 'o', 'p', 'e', 'r', 'a', 't', 'M',
    's', 'g', 'i', 'n', 'u'].all isPrintable = true from rfl)
  simp [promptText, entriesText, List.all_flatMap, all_isPrintable_entryText, written]

/-- The text of a prompt has the tokens of a prompt whose messages are those that are read
back, or none if one of them is not. -/
theorem tokens?_promptText (batch : List Message) :
    tokens? (String.ofList (promptText batch)) = (batch.mapM readBack?).map promptTokens := by
  have noMark : (String.ofList (promptText batch)).toList.head? ≠ some '\ufeff' := by
    rw [String.toList_ofList]
    change some 'o' ≠ some '\ufeff'
    decide
  rw [tokens?_of_noMark noMark, String.toList_ofList, run_promptText, mapM_readBack?,
    all_isPrintable_promptText]
  cases batch.all (·.content.toList.all isReadable) <;> rfl

end PromptRelay.Prompt