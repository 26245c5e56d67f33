import PromptRelay.Command.Preview
import PromptRelay.Proofs.Text.Lines
import PromptRelay.Proofs.Wire.Damage

/-!
Contract: the batch that a file holds, and the line that is named if it holds none.

Owns:
- the texts that list messages one to a line, with blank lines anywhere;
- that such a text and the array of the same messages hold the same batch;
- the line for which a text is refused, and its number in the text itself.

Does not own: texts of one message, and files that cannot be read.
-/

namespace PromptRelay.Command

open Text

/-! ## Payloads on a line -/

/-- What is written for a character can stand on a line. -/
theorem feed_notMem_escape (c : Char) : '\n' ∉ Json.escape c := by
  unfold Json.escape
  -- Seven characters have an escape of one letter.
  iterate 7
    split
    case isTrue => decide
  split
  case isTrue control =>
    have digit : ∀ n < 16, Json.hexDigit n ≠ '\n' := by decide
    have first := digit (c.toNat / 16) (by omega)
    have second := digit (c.toNat % 16) (by omega)
    simp [first.symm, second.symm]
  case isFalse notFeed _ _ _ => simp [Ne.symm notFeed]

theorem feed_notMem_quoted (s : String) : '\n' ∉ Json.quoted s := by
  simp [Json.quoted, feed_notMem_escape]

/-- Members are closed by a brace, with no line feed before it. -/
theorem exists_writeMembers {members : List (String × Json.Value)}
    (values : ∀ member ∈ members, '\n' ∉ Json.write member.2) :
    ∃ body, Json.writeMembers members = body ++ ['\x7d'] ∧ '\n' ∉ body := by
  induction members with
  | nil => exact ⟨[], rfl, by decide⟩
  | cons member members inductionHypothesis =>
      rw [List.forall_mem_cons] at values
      cases members with
      | nil =>
          refine ⟨Json.quoted member.1 ++ ':' :: Json.write member.2, rfl, ?_⟩
          simp [feed_notMem_quoted, values.1]
      | cons other others =>
          obtain ⟨body, written, noFeed⟩ := inductionHypothesis values.2
          refine ⟨Json.quoted member.1 ++ ':' :: Json.write member.2 ++ ',' :: body, ?_, ?_⟩
          · rw [Json.writeMembers, written]
            · simp
            · simp
          · simp [feed_notMem_quoted, values.1, noFeed]

/-- The payload of a message is a pair of braces with no line feed between them. -/
theorem exists_encode (message : Message) :
    ∃ body, (encode message).toList = '\x7b' :: (body ++ ['\x7d']) ∧ '\n' ∉ body := by
  have values (members : List (String × Json.Value)) (same : message.toJson = .object members) :
      ∀ member ∈ members, '\n' ∉ Json.write member.2 := by
    cases same
    simp only [List.forall_mem_cons]
    refine ⟨feed_notMem_quoted _, ?_, feed_notMem_quoted _, by simp⟩
    cases message.name with
    | none => decide
    | some name => exact feed_notMem_quoted name
  obtain ⟨body, written, noFeed⟩ := exists_writeMembers (values _ rfl)
  refine ⟨body, ?_, noFeed⟩
  rw [← written]
  exact String.toList_ofList

theorem isTrimmed_encode (message : Message) : IsTrimmed (encode message).toList := by
  obtain ⟨body, written, _⟩ := exists_encode message
  rw [written]
  constructor
  · rintro c ⟨⟩
    decide
  · intro c last
    rw [← List.cons_append, List.getLast?_concat] at last
    cases last
    decide

theorem decode_line (message : Message) :
    decode Message (bytes (String.ofList (encode message).toList)) = .ok message := by
  rw [String.ofList_toList]
  exact decode_encode_of_reads (readMessage_reads message)

/-! ## Payloads of several messages -/

/-- Items are closed by a bracket. -/
theorem exists_writeItems (items : List Json.Value) :
    ∃ body, Json.writeItems items = body ++ [']'] := by
  induction items with
  | nil => exact ⟨[], rfl⟩
  | cons item items inductionHypothesis =>
      cases items with
      | nil => exact ⟨Json.write item, rfl⟩
      | cons other others =>
          obtain ⟨body, written⟩ := inductionHypothesis
          refine ⟨Json.write item ++ ',' :: body, ?_⟩
          rw [Json.writeItems, written, List.append_assoc, List.cons_append]
          simp

/-- The array of messages begins with a bracket, and trimming leaves it as it is. -/
theorem trim_encode_messages (messages : List Message) :
    (encode messages).toList.head? = some '[' ∧
      trim (encode messages).toList = (encode messages).toList := by
  obtain ⟨body, closed⟩ := exists_writeItems (messages.map Message.toJson)
  have written : (encode messages).toList = '[' :: (body ++ [']']) := by
    rw [← closed]
    exact String.toList_ofList
  rw [written]
  refine ⟨rfl, trim_of_isTrimmed ⟨?_, ?_⟩⟩
  · rintro c ⟨⟩
    decide
  · intro c last
    rw [← List.cons_append, List.getLast?_concat] at last
    cases last
    decide

/-! ## Lists of messages -/

/-- A line that has a message, or none. -/
inductive IsLine : Option Message → List Char → Prop where
  | blank {line : List Char} (blank : ∀ c ∈ line, isBlank c = true) (noFeed : '\n' ∉ line) :
      IsLine none line
  | message (message : Message) : IsLine (some message) (encode message).toList

/-- What ends a line. -/
inductive IsEnding : List Char → Prop where
  | feed : IsEnding ['\n']
  | returnFeed : IsEnding ['\r', '\n']

/-- The texts that have the payloads of messages on a line each, and otherwise blank lines.
The last line may lack its ending. -/
inductive Lists : List Message → List Char → Prop where
  | last {found : Option Message} {line : List Char} (isLine : IsLine found line) :
      Lists found.toList line
  | ended {found : Option Message} {messages : List Message} {line ending rest : List Char}
      (isLine : IsLine found line) (isEnding : IsEnding ending) (onward : Lists messages rest) :
      Lists (found.toList ++ messages) (line ++ (ending ++ rest))

theorem IsEnding.blank {ending : List Char} (isEnding : IsEnding ending) :
    ∀ c ∈ ending, isBlank c = true := by
  cases isEnding <;> exact List.all_eq_true.mp rfl

theorem IsLine.noFeed {found : Option Message} {line : List Char} (isLine : IsLine found line) :
    '\n' ∉ line := by
  cases isLine with
  | blank blank noFeed => exact noFeed
  | message message =>
      obtain ⟨body, written, noFeed⟩ := exists_encode message
      rw [written]
      simp [noFeed]

theorem IsLine.withoutReturn {found : Option Message} {line : List Char}
    (isLine : IsLine found line) : IsLine found (withoutReturn line) := by
  cases isLine with
  | blank blank noFeed =>
      have subset := withoutReturn_subset line
      exact .blank (fun c member => blank c (subset member)) fun member => noFeed (subset member)
  | message message =>
      have last : (encode message).toList.getLast? ≠ some '\r' := by
        intro same
        have notBlank := (isTrimmed_encode message).last '\r' same
        cases notBlank
      rw [withoutReturn_of_last last]
      exact .message message

/-- Whichever way a line is ended, it is the first of the lines. -/
theorem IsLine.lines_ended {found : Option Message} {line ending : List Char}
    (isLine : IsLine found line) (isEnding : IsEnding ending) (rest : List Char) :
    ∃ first, IsLine found first ∧ lines (line ++ (ending ++ rest)) = first :: lines rest := by
  cases isEnding with
  | feed => exact ⟨_, isLine.withoutReturn, Text.lines_ended isLine.noFeed rest⟩
  | returnFeed =>
      refine ⟨line, isLine, ?_⟩
      have noFeed : '\n' ∉ line ++ ['\r'] := by simp [isLine.noFeed]
      have parted := Text.lines_ended noFeed rest
      rw [withoutReturn_concat, List.append_assoc] at parted
      exact parted

/-- A line that is not ended is the only one, unless nothing is on it. -/
theorem IsLine.lines_last {found : Option Message} {line : List Char}
    (isLine : IsLine found line) : found = none ∧ lines line = [] ∨ lines line = [line] := by
  by_cases nothing : line = []
  · cases isLine with
    | blank _ _ => exact .inl ⟨rfl, by rw [nothing, lines_nil]⟩
    | message message =>
        obtain ⟨body, written, _⟩ := exists_encode message
        rw [written] at nothing
        cases nothing
  · exact .inr (Text.lines_last isLine.noFeed nothing)

theorem IsLine.readLines {found : Option Message} {line : List Char} (isLine : IsLine found line)
    (number : Nat) (others : List (List Char)) :
    readLines number (line :: others) =
      (readLines (number + 1) others).map (found.toList ++ ·) := by
  cases isLine with
  | blank blank noFeed =>
      rw [Command.readLines, if_pos (List.all_eq_true.mpr blank)]
      cases Command.readLines (number + 1) others <;> rfl
  | message message =>
      have notBlank : ¬ (encode message).toList.all isBlank = true := by
        obtain ⟨body, written, _⟩ := exists_encode message
        rw [written]
        simp [isBlank]
      rw [Command.readLines, if_neg notBlank, decode_line]
      cases Command.readLines (number + 1) others <;> rfl

/-- The lines of a text that lists messages are read as these. -/
theorem Lists.readLines {messages : List Message} {text : List Char} (lists : Lists messages text)
    (number : Nat) : readLines number (lines text) = .ok messages := by
  induction lists generalizing number with
  | last isLine =>
      rcases isLine.lines_last with ⟨rfl, nothing⟩ | single
      · rw [nothing]
        rfl
      · rw [single, isLine.readLines, Command.readLines]
        exact congrArg Except.ok (List.append_nil _)
  | ended isLine isEnding onward inductionHypothesis =>
      obtain ⟨first, firstIsLine, parted⟩ := isLine.lines_ended isEnding _
      rw [parted, firstIsLine.readLines, inductionHypothesis]
      rfl

/-! ## Trimming -/

theorem Lists.eq_nil_of_blank {messages : List Message} {text : List Char}
    (lists : Lists messages text) (blank : ∀ c ∈ text, isBlank c = true) : messages = [] := by
  have isNone {found : Option Message} {line : List Char} (isLine : IsLine found line)
      (blank : ∀ c ∈ line, isBlank c = true) : found = none := by
    cases isLine with
    | blank _ _ => rfl
    | message message =>
        obtain ⟨body, written, _⟩ := exists_encode message
        have brace := blank '\x7b' (by rw [written]; exact List.mem_cons_self)
        cases brace
  induction lists with
  | last isLine => rw [isNone isLine blank, Option.toList_none]
  | ended isLine isEnding onward inductionHypothesis =>
      rw [List.forall_mem_append, List.forall_mem_append] at blank
      rw [isNone isLine blank.1, inductionHypothesis blank.2.2, Option.toList_none,
        List.append_nil]

theorem lists_nil : Lists [] [] :=
  .last (.blank (by simp) (by simp))

theorem Lists.trimStart {messages : List Message} {text : List Char}
    (lists : Lists messages text) : Lists messages (trimStart text) := by
  have kept (message : Message) (rest : List Char) :
      Text.trimStart ((encode message).toList ++ rest) = (encode message).toList ++ rest := by
    obtain ⟨body, written, _⟩ := exists_encode message
    rw [written]
    rfl
  induction lists with
  | last isLine =>
      cases isLine with
      | blank blank noFeed =>
          rw [Text.trimStart, List.dropWhile_eq_nil_iff.mpr blank]
          exact lists_nil
      | message message =>
          have same := kept message []
          rw [List.append_nil] at same
          rw [same]
          exact .last (.message message)
  | ended isLine isEnding onward inductionHypothesis =>
      cases isLine with
      | blank blank noFeed =>
          rw [Text.trimStart, List.dropWhile_append_of_pos blank,
            List.dropWhile_append_of_pos isEnding.blank]
          exact inductionHypothesis
      | message message =>
          rw [kept]
          exact .ended (.message message) isEnding onward

theorem Lists.trimEnd {messages : List Message} {text : List Char}
    (lists : Lists messages text) : Lists messages (trimEnd text) := by
  have alone {found : Option Message} {line : List Char} (isLine : IsLine found line) :
      Lists found.toList (Text.trimEnd line) := by
    cases isLine with
    | blank blank noFeed =>
        have nothing : Text.trimEnd ([] ++ line) = [] := trimEnd_append blank (by simp)
        rw [List.nil_append] at nothing
        rw [nothing]
        exact lists_nil
    | message message =>
        have same : Text.trimEnd (encode message).toList = (encode message).toList := by
          have nothing : ∀ c ∈ ([] : List Char), isBlank c = true := by simp
          have same := trimEnd_append nothing (isTrimmed_encode message).last
          rwa [List.append_nil] at same
        rw [same]
        exact .last (.message message)
  induction lists with
  | last isLine => exact alone isLine
  | @ended found messages line ending rest isLine isEnding onward inductionHypothesis =>
      obtain ⟨after, blank, parted, last⟩ := exists_trimEnd rest
      by_cases nothing : Text.trimEnd rest = []
      · rw [nothing, List.nil_append] at parted
        have behindBlank : ∀ c ∈ ending ++ rest, isBlank c = true := by
          rw [List.forall_mem_append, parted]
          exact ⟨isEnding.blank, blank⟩
        have none := onward.eq_nil_of_blank (by rw [parted]; exact blank)
        rw [trimEnd_append_blank line behindBlank, none, List.append_nil]
        exact alone isLine
      · have kept : Text.trimEnd (line ++ (ending ++ rest)) =
            line ++ (ending ++ Text.trimEnd rest) := by
          have wholeLast : ∀ c ∈ ((line ++ ending) ++ Text.trimEnd rest).getLast?,
              isBlank c = false := by
            rw [getLast?_behind _ nothing]
            exact last
          have same := trimEnd_append blank wholeLast
          rwa [List.append_assoc, ← parted, List.append_assoc, List.append_assoc] at same
        rw [kept]
        exact .ended isLine isEnding inductionHypothesis

/-- No such text is taken for an array. -/
theorem Lists.head?_ne {messages : List Message} {text : List Char}
    (lists : Lists messages text) : text.head? ≠ some '[' := by
  have noBracket {found : Option Message} {line : List Char} (isLine : IsLine found line) :
      line.head? ≠ some '[' := by
    intro opened
    cases isLine with
    | blank blank noFeed =>
        have bracket := blank '[' (List.mem_of_mem_head? opened)
        cases bracket
    | message message =>
        obtain ⟨body, written, _⟩ := exists_encode message
        rw [written] at opened
        cases opened
  cases lists with
  | last isLine => exact noBracket isLine
  | @ended found messages line ending rest isLine isEnding onward =>
      cases line with
      | nil => cases isEnding <;> simp
      | cons c line =>
          have first : some c ≠ some '[' := noBracket isLine
          exact first

/-! ## Summary of lists -/

/-- The array of messages, and every text that has their payloads on a line each, with line
feeds alone or behind carriage returns and with blank lines anywhere, hold these messages. -/
theorem readBatch_listed (messages : List Message) :
    readBatch (encode messages) = .ok messages ∧
      ∀ text : String, Lists messages text.toList → readBatch text = .ok messages := by
  constructor
  · obtain ⟨opened, kept⟩ := trim_encode_messages messages
    have decoded : decode (List Message) (bytes (encode messages)) = .ok messages :=
      decode_encode_of_reads (readMessages_reads messages)
    unfold readBatch
    dsimp only
    rw [kept, if_pos opened, String.ofList_toList, decoded]
    rfl
  · intro text lists
    have kept : Lists messages (trim text.toList) := lists.trimStart.trimEnd
    unfold readBatch
    dsimp only
    rw [if_neg kept.head?_ne]
    exact kept.readLines 1

/-- A question whose content has line breaks of several kinds, and is no array. -/
def brokenQuestion : Message := { role := .user, content := "[a]\r\nb\u2028" }

def namedAnswer : Message := { role := .assistant, name := some "\u0085", content := "" }

/-- A blank line before the messages and one between them; the last line is not ended. -/
def spacedLines : String :=
  "\u00a0\u2028\n" ++ encode brokenQuestion ++ "\r\n\t\r\r\n" ++ encode namedAnswer

theorem readBatch_spacedLines :
    Lists [brokenQuestion, namedAnswer] spacedLines.toList ∧
      readBatch spacedLines = .ok [brokenQuestion, namedAnswer] := by
  have before : IsLine none ['\u00a0', '\u2028'] := .blank (List.all_eq_true.mp rfl) (by decide)
  have between : IsLine none ['\t', '\r'] := .blank (List.all_eq_true.mp rfl) (by decide)
  have lists : Lists [brokenQuestion, namedAnswer] spacedLines.toList := by
    have listed := Lists.ended before .feed <| .ended (.message brokenQuestion) .returnFeed <|
      .ended between .returnFeed <| .last (.message namedAnswer)
    have same : spacedLines.toList = ['\u00a0', '\u2028'] ++ (['\n'] ++
        ((encode brokenQuestion).toList ++ (['\r', '\n'] ++ (['\t', '\r'] ++ (['\r', '\n'] ++
          (encode namedAnswer).toList))))) := by
      simp [spacedLines]
    rw [same]
    exact listed
  exact ⟨lists, (readBatch_listed [brokenQuestion, namedAnswer]).2 spacedLines lists⟩

/-! ## Refused lines -/

/-- A line that is neither blank nor the text of a message. -/
def isRefused (line : List Char) : Bool :=
  !line.all isBlank && (decode Message (bytes (String.ofList line))).toOption.isNone

/-- The number of the first line that is refused, where lines count from one. -/
def FirstRefused (lines : List (List Char)) (number : Nat) : Prop :=
  ∃ earlier line later, lines = earlier ++ line :: later ∧ number = earlier.length + 1 ∧
    isRefused line = true ∧ ∀ other ∈ earlier, isRefused other = false

theorem firstRefused_cons {line : List Char} {others : List (List Char)} {number : Nat} :
    FirstRefused (line :: others) number ↔
      isRefused line = true ∧ number = 1 ∨
        isRefused line = false ∧ ∃ place, FirstRefused others place ∧ number = place + 1 := by
  constructor
  · rintro ⟨earlier, refusedLine, later, parted, rfl, refused, accepted⟩
    cases earlier with
    | nil =>
        obtain ⟨rfl, _⟩ := List.cons.inj parted
        exact .inl ⟨refused, rfl⟩
    | cons first earlier =>
        obtain ⟨rfl, onward⟩ := List.cons.inj parted
        rw [List.forall_mem_cons] at accepted
        exact .inr ⟨accepted.1, _, ⟨earlier, refusedLine, later, onward, rfl, refused, accepted.2⟩,
          rfl⟩
  · rintro (⟨refused, rfl⟩ | ⟨accepted, _, ⟨earlier, refusedLine, later, rfl, rfl, refused,
      othersAccepted⟩, rfl⟩)
    · exact ⟨[], line, others, rfl, rfl, refused, by simp⟩
    · exact ⟨line :: earlier, refusedLine, later, rfl, rfl, refused,
        List.forall_mem_cons.mpr ⟨accepted, othersAccepted⟩⟩

theorem not_firstRefused_nil {number : Nat} : ¬ FirstRefused [] number := by
  rintro ⟨earlier, line, later, parted, _⟩
  cases earlier <;> cases parted

theorem FirstRefused.unique {lines : List (List Char)} {number other : Nat}
    (first : FirstRefused lines number) (second : FirstRefused lines other) : number = other := by
  induction lines generalizing number other with
  | nil => exact absurd first not_firstRefused_nil
  | cons line lines inductionHypothesis =>
      rw [firstRefused_cons] at first second
      rcases first with ⟨refused, rfl⟩ | ⟨accepted, place, first, rfl⟩ <;>
        rcases second with ⟨refusedAgain, rfl⟩ | ⟨acceptedAgain, otherPlace, second, rfl⟩
      · rfl
      · rw [refused] at acceptedAgain
        cases acceptedAgain
      · rw [accepted] at refusedAgain
        cases refusedAgain
      · rw [inductionHypothesis first second]

/-- Blank lines at the start are counted, and not refused. -/
theorem firstRefused_behind_blank {count number : Nat} {lines : List (List Char)} :
    FirstRefused (List.replicate count [] ++ lines) number ↔
      ∃ place, FirstRefused lines place ∧ number = place + count := by
  induction count generalizing number with
  | zero => simp
  | succ count inductionHypothesis =>
      have blank : isRefused [] = false := rfl
      rw [List.replicate_succ, List.cons_append, firstRefused_cons, blank]
      simp only [Bool.false_eq_true, false_and, true_and, false_or, inductionHypothesis]
      constructor
      · rintro ⟨_, ⟨place, first, rfl⟩, rfl⟩
        exact ⟨place, first, Nat.add_assoc _ _ _⟩
      · rintro ⟨place, first, rfl⟩
        exact ⟨_, ⟨place, first, rfl⟩, (Nat.add_assoc _ _ _).symm⟩

/-- Only which lines are refused matters, and not how many follow that are not. -/
theorem firstRefused_congr {lines others : List (List Char)} {count number : Nat}
    (same : lines.map isRefused = others.map isRefused ++ List.replicate count false) :
    FirstRefused lines number ↔ FirstRefused others number := by
  induction others generalizing lines number with
  | nil =>
      refine iff_of_false ?_ not_firstRefused_nil
      rintro ⟨earlier, line, later, rfl, rfl, refused, _⟩
      have member : isRefused line ∈ (earlier ++ line :: later).map isRefused :=
        List.mem_map_of_mem (List.mem_append_right _ List.mem_cons_self)
      rw [same, refused] at member
      cases List.eq_of_mem_replicate member
  | cons other others inductionHypothesis =>
      cases lines with
      | nil => cases same
      | cons line lines =>
          obtain ⟨sameLine, sameLines⟩ := List.cons.inj same
          rw [firstRefused_cons, firstRefused_cons, sameLine]
          simp only [inductionHypothesis sameLines]

/-- Blanks that JSON knows do not matter around a line. -/
theorem ignoresAround_isRefused :
    IgnoresAround (fun c => c = ' ' ∨ c = '\n' ∨ c = '\t' ∨ c = '\r') isRefused where
  surrounded before line after beforeIsGap afterIsGap := by
    have blank {gap : List Char} (isGap : Json.IsGap gap) : gap.all isBlank = true := by
      rw [List.all_eq_true]
      intro c member
      rcases isGap c member with rfl | rfl | rfl | rfl <;> rfl
    have spaces {gap : List Char} (isGap : Json.IsGap gap) :
        ∀ byte ∈ utf8 gap, Json.isSpace byte = true := by
      have passed := Json.skipSpace_gap isGap []
      rw [List.append_nil] at passed
      exact List.dropWhile_eq_nil_iff.mp passed
    have written : bytes (String.ofList (before ++ (line ++ after))) =
        utf8 before ++ (bytes (String.ofList line) ++ utf8 after) := by
      simp only [bytes_ofList, utf8_append]
    rw [isRefused, isRefused, written,
      decode_surrounded _ (spaces beforeIsGap) (spaces afterIsGap), List.all_append,
      List.all_append, blank beforeIsGap, blank afterIsGap, Bool.true_and, Bool.and_true]
  carriageReturn := .inr (.inr (.inr rfl))

theorem firstRefused_stripped_iff {text : List Char} (isGap : Json.IsGap (margin text))
    {number : Nat} :
    FirstRefused (lines text) number ↔ FirstRefused (lines (stripped text)) number := by
  obtain ⟨others, same⟩ := ignoresAround_isRefused.lines_stripped text isGap
  exact firstRefused_congr same

theorem readLines_cons_eq_error_iff {number : Nat} {line : List Char}
    {others : List (List Char)} {error : BatchError} :
    readLines number (line :: others) = .error error ↔
      isRefused line = true ∧ error = .malformedLine number ∨
        isRefused line = false ∧ readLines (number + 1) others = .error error := by
  rw [readLines, isRefused]
  by_cases blank : line.all isBlank = true
  · simp [blank]
  · rw [if_neg blank]
    rw [Bool.not_eq_true] at blank
    cases decode Message (bytes (String.ofList line)) with
    | error fault => simp [blank, Except.toOption, eq_comm]
    | ok message =>
        simp only [blank, Except.toOption, Option.isNone_some, Bool.and_false]
        cases readLines (number + 1) others <;> simp

/-- Reading lines fails exactly if one is refused, and names the first of these. -/
theorem readLines_eq_error_iff {number : Nat} {lines : List (List Char)} {error : BatchError} :
    readLines number lines = .error error ↔
      ∃ place, FirstRefused lines place ∧
        ∃ named, error = .malformedLine named ∧ named + 1 = number + place := by
  induction lines generalizing number with
  | nil => simp [readLines, not_firstRefused_nil]
  | cons line lines inductionHypothesis =>
      rw [readLines_cons_eq_error_iff, inductionHypothesis]
      constructor
      · rintro (⟨refused, rfl⟩ | ⟨accepted, place, first, named, rfl, counted⟩)
        · exact ⟨1, firstRefused_cons.mpr (.inl ⟨refused, rfl⟩), number, rfl, rfl⟩
        · exact ⟨place + 1, firstRefused_cons.mpr (.inr ⟨accepted, place, first, rfl⟩), named, rfl,
            by omega⟩
      · rintro ⟨_, first, named, rfl, counted⟩
        rcases firstRefused_cons.mp first with ⟨refused, rfl⟩ | ⟨accepted, place, onward, rfl⟩
        · obtain rfl : named = number := by omega
          exact .inl ⟨refused, rfl⟩
        · exact .inr ⟨accepted, place, onward, named, rfl, by omega⟩

/-- The number that is named is that of the refused line in the text, less the line feeds at
its start. -/
theorem readBatch_eq_error_iff {text : String} (notArray : (trim text.toList).head? ≠ some '[')
    {error : BatchError} :
    readBatch text = .error error ↔
      ∃ number, FirstRefused (lines (stripped text.toList)) number ∧
        ∃ named, error = .malformedLine named ∧ named + leadingFeeds text.toList = number := by
  have read : readBatch text = readLines 1 (lines (trim text.toList)) := if_neg notArray
  rw [read, readLines_eq_error_iff, stripped, lines_feeds]
  simp only [firstRefused_behind_blank]
  constructor
  · rintro ⟨place, first, named, rfl, counted⟩
    exact ⟨_, ⟨place, first, rfl⟩, named, rfl, by omega⟩
  · rintro ⟨_, ⟨place, first, rfl⟩, named, rfl, counted⟩
    exact ⟨place, first, named, rfl, by omega⟩

/-! ## Summary of refused lines -/

/-- A text that is no array is refused exactly if one of its lines is, apart from the blanks
around the text. The first such line is named by its number in the text less the number of line
feeds before the first character that is not blank, so that the number is right exactly if
there are none. Blanks of JSON around the text make no difference to which line is the first;
with other blanks, the lines that are read are still those of the text up to blanks around each
and blank lines at the end. -/
theorem readBatch_refused {text : String} (notArray : (trim text.toList).head? ≠ some '[') :
    (∀ error, readBatch text = .error error ↔
      ∃ number, FirstRefused (lines (stripped text.toList)) number ∧
        ∃ named, error = .malformedLine named ∧ named + leadingFeeds text.toList = number) ∧
      (∀ number, FirstRefused (lines (stripped text.toList)) number →
        (readBatch text = .error (.malformedLine number) ↔ leadingFeeds text.toList = 0)) ∧
      (Json.IsGap (margin text.toList) → ∀ number,
        FirstRefused (lines text.toList) number ↔
          FirstRefused (lines (stripped text.toList)) number) ∧
      ∃ others, (lines text.toList).map trim =
        (lines (stripped text.toList)).map trim ++ List.replicate others [] := by
  refine ⟨fun error => readBatch_eq_error_iff notArray, ?_,
    fun isGap number => firstRefused_stripped_iff isGap,
    ignoresAround_trim.lines_stripped text.toList fun c => isBlank_of_mem_margin⟩
  intro number first
  rw [readBatch_eq_error_iff notArray]
  constructor
  · rintro ⟨other, second, named, same, counted⟩
    obtain rfl := BatchError.malformedLine.inj same
    have sameNumber := first.unique second
    omega
  · intro none
    exact ⟨number, first, number, rfl, by omega⟩

/-- Two line feeds, a message and what is none. -/
def lateMessages : String :=
  "\n\n" ++ encode namedAnswer ++ "\nanswer"

theorem firstRefused_lateMessages : FirstRefused (lines lateMessages.toList) 4 :=
  ⟨[[], [], (encode namedAnswer).toList], "answer".toList, [], by decide +kernel, rfl,
    by decide +kernel, by decide +kernel⟩

/-- The fourth line is refused and the second is named. -/
theorem readBatch_lateMessages :
    (trim lateMessages.toList).head? ≠ some '[' ∧ Json.IsGap (margin lateMessages.toList) ∧
      FirstRefused (lines lateMessages.toList) 4 ∧
      readBatch lateMessages = .error (.malformedLine 2) ∧
      readBatch lateMessages ≠ .error (.malformedLine 4) := by
  have notArray : (trim lateMessages.toList).head? ≠ some '[' := by decide +kernel
  have feeds : leadingFeeds lateMessages.toList = 2 := by decide +kernel
  have isGap : Json.IsGap (margin lateMessages.toList) := by
    have blanks : margin lateMessages.toList = ['\n', '\n'] := by decide +kernel
    intro c member
    rw [blanks] at member
    exact .inr (.inl (by simpa using member))
  obtain ⟨failure, right, sameLine, _⟩ := readBatch_refused notArray
  have first := (sameLine isGap 4).mp firstRefused_lateMessages
  refine ⟨notArray, isGap, firstRefused_lateMessages, ?_, ?_⟩
  · exact (failure _).mpr ⟨4, first, 2, rfl, by rw [feeds]⟩
  · rw [Ne, right 4 first, feeds]
    decide

/-- The line that is named is not the first that is refused. -/
theorem readBatch_misnumbers :
    FirstRefused (lines lateMessages.toList) 4 ∧
      readBatch lateMessages = .error (.malformedLine 2) :=
  ⟨firstRefused_lateMessages, by decide +kernel⟩

end PromptRelay.Command
