import PromptRelay.Interpretation
import PromptRelay.Proofs.Text.Numerals

/-!
Contract: an index selects the message that its written number counts to.

Owns:
- the texts that spell an index, and the integer of any size that each of them spells;
- that reading an index into a machine word loses nothing that a batch could tell;
- what a completion that is read as an index gives for a batch.

Does not own: how the thought is dropped from a completion, and new messages.
-/

namespace PromptRelay

open Text

/-! ## Written indices -/

/-- Groups of digits with a single underscore between neighbours, and the digits alone. -/
inductive Grouped : (text digits : List Char) → Prop where
  | last {digits : List Char} (isNonempty : digits ≠ []) (areDigits : ∀ c ∈ digits, isDigit c) :
      Grouped digits digits
  | more {digits text others : List Char} (isNonempty : digits ≠ [])
      (areDigits : ∀ c ∈ digits, isDigit c) (onward : Grouped text others) :
      Grouped (digits ++ '_' :: text) (digits ++ others)

/-- The texts that spell an index, and the integer that each of them spells. -/
inductive SpellsIndex : (text : List Char) → (index : Int) → Prop where
  | unsigned {text digits : List Char} (grouped : Grouped text digits) :
      SpellsIndex text (numberOf digits)
  | positive {text digits : List Char} (grouped : Grouped text digits) :
      SpellsIndex ('+' :: text) (numberOf digits)
  | negative {text digits : List Char} (grouped : Grouped text digits) :
      SpellsIndex ('-' :: text) (-numberOf digits)

/-! ## Groups -/

theorem underscore_notMem_of_isNumeral {cs : List Char} (numeral : isNumeral cs = true) :
    '_' ∉ cs := by
  intro member
  have digit := ((isNumeral_iff cs).mp numeral).2 '_' member
  exact absurd digit (by decide)

theorem split_of_grouped {text digits : List Char} (grouped : Grouped text digits) :
    (split '_' text).all isNumeral = true ∧ (split '_' text).flatten = digits := by
  induction grouped with
  | last isNonempty areDigits =>
      have numeral := (isNumeral_iff _).mpr ⟨isNonempty, areDigits⟩
      rw [split_eq_splitOn, List.splitOn_eq_singleton (underscore_notMem_of_isNumeral numeral)]
      simp [numeral]
  | more isNonempty areDigits _ inductionHypothesis =>
      have numeral := (isNumeral_iff _).mpr ⟨isNonempty, areDigits⟩
      rw [split_eq_splitOn] at inductionHypothesis ⊢
      rw [List.splitOn_append_cons_self_of_not_mem (underscore_notMem_of_isNumeral numeral)]
      simp [numeral, inductionHypothesis.1, inductionHypothesis.2]

/-- Numerals with an underscore between neighbours are groups. -/
theorem grouped_intercalate {groups : List (List Char)} (isNonempty : groups ≠ [])
    (numerals : groups.all isNumeral = true) :
    Grouped (['_'].intercalate groups) groups.flatten := by
  induction groups with
  | nil => exact absurd rfl isNonempty
  | cons group others inductionHypothesis =>
      rw [List.all_cons, Bool.and_eq_true] at numerals
      obtain ⟨groupNonempty, groupDigits⟩ := (isNumeral_iff group).mp numerals.1
      cases others with
      | nil =>
          rw [List.intercalate_singleton, List.flatten_singleton]
          exact .last groupNonempty groupDigits
      | cons next others =>
          have onward := inductionHypothesis (List.cons_ne_nil next others) numerals.2
          rw [List.intercalate_cons_cons, List.flatten_cons]
          simpa using Grouped.more groupNonempty groupDigits onward

theorem grouped_of_split {text : List Char} (numerals : (split '_' text).all isNumeral = true) :
    Grouped text (split '_' text).flatten := by
  rw [split_eq_splitOn] at numerals ⊢
  have grouped := grouped_intercalate (List.splitOn_ne_nil '_' text) numerals
  rwa [List.intercalate_splitOn] at grouped

/-! ## Values -/

/-- A number behind a sign. -/
def signed (isNegative : Bool) (value : Nat) : Int :=
  if isNegative then -value else value

theorem signed_longer (isNegative : Bool) (value digit : Nat) :
    10 * signed isNegative value + (if isNegative then -(digit : Int) else digit) =
      signed isNegative (10 * value + digit) := by
  cases isNegative with
  | false =>
      simp only [signed, Bool.false_eq_true, if_false]
      omega
  | true =>
      simp only [signed, if_true]
      omega

theorem foldl_signed (isNegative : Bool) (digits : List Char) :
    digits.foldl (fun value digit => 10 * value +
      (if isNegative then -(digitValue digit : Int) else digitValue digit)) 0 =
      signed isNegative (decimalValue digits) := by
  induction digits using List.reverseRecOn with
  | nil => cases isNegative <;> rfl
  | append_singleton digits digit inductionHypothesis =>
      rw [List.foldl_append, inductionHypothesis, List.foldl_cons, List.foldl_nil, signed_longer,
        decimalValue_concat]

/-- What a word does not hold, it does not hold with more digits either. -/
theorem isSigned_of_longer {isNegative : Bool} {value digit : Nat}
    (held : Word.isSigned (signed isNegative (10 * value + digit)) = true) :
    Word.isSigned (signed isNegative value) = true := by
  rw [Word.isSigned_iff] at held ⊢
  cases isNegative with
  | false =>
      simp only [signed, Bool.false_eq_true, if_false] at held ⊢
      omega
  | true =>
      simp only [signed, if_true] at held ⊢
      omega

/-- Digits are read as their number wherever a word holds it, and not at all otherwise,
although every digit is checked on its own. -/
theorem readSigned?_eq (isNegative : Bool) (digits : List Char) :
    readSigned? isNegative digits =
      if Word.isSigned (signed isNegative (decimalValue digits)) then
        some (signed isNegative (decimalValue digits))
      else none := by
  have grown := foldl_signed isNegative
  rw [← grown]
  refine foldlM_checked (fun value digit => 10 * value +
    (if isNegative then -(digitValue digit : Int) else digitValue digit))
    (Word.isSigned · = true) (by decide) ?_ digits
  intro shorter digit held
  rw [grown] at held ⊢
  rw [signed_longer] at held
  exact isSigned_of_longer held

/-! ## Reading -/

/-- A group begins with a digit, so that it is not taken for a sign. -/
theorem splitSign_of_grouped {text digits : List Char} (grouped : Grouped text digits) :
    splitSign text = (false, text) := by
  have begins : ∃ digit rest, text = digit :: rest ∧ isDigit digit = true := by
    cases grouped with
    | last isNonempty areDigits =>
        obtain ⟨digit, rest, rfl⟩ := List.exists_cons_of_ne_nil isNonempty
        exact ⟨digit, rest, rfl, areDigits digit (by simp)⟩
    | @more group _ _ isNonempty areDigits _ =>
        obtain ⟨digit, rest, rfl⟩ := List.exists_cons_of_ne_nil isNonempty
        exact ⟨digit, _, rfl, areDigits digit (by simp)⟩
  obtain ⟨digit, rest, rfl, isDigit⟩ := begins
  have notMinus : digit ≠ '-' := by
    rintro rfl
    exact absurd isDigit (by decide)
  have notPlus : digit ≠ '+' := by
    rintro rfl
    exact absurd isDigit (by decide)
  simp [splitSign, notMinus, notPlus]

theorem readIndex?_of_splitSign {text body digits : List Char} {isNegative : Bool}
    (parted : splitSign text = (isNegative, body)) (grouped : Grouped body digits) :
    readIndex? text = some (if Word.isSigned (signed isNegative (numberOf digits)) then
      some (signed isNegative (numberOf digits)) else none) := by
  obtain ⟨numerals, flattened⟩ := split_of_grouped grouped
  simp only [readIndex?, parted, numerals, if_true, flattened, readSigned?_eq,
    decimalValue_eq_numberOf]

theorem readIndex?_of_spellsIndex {text : List Char} {index : Int}
    (spelled : SpellsIndex text index) :
    readIndex? text = some (if Word.isSigned index then some index else none) := by
  cases spelled with
  | unsigned grouped =>
      have read := readIndex?_of_splitSign (splitSign_of_grouped grouped) grouped
      simpa only [signed, Bool.false_eq_true, if_false] using read
  | @positive body _ grouped =>
      have parted : splitSign ('+' :: body) = (false, body) := rfl
      have read := readIndex?_of_splitSign parted grouped
      simpa only [signed, Bool.false_eq_true, if_false] using read
  | @negative body _ grouped =>
      have parted : splitSign ('-' :: body) = (true, body) := rfl
      have read := readIndex?_of_splitSign parted grouped
      simpa only [signed, if_true] using read

theorem exists_spellsIndex_of_readIndex? {text : List Char} {value : Option Int}
    (read : readIndex? text = some value) : ∃ index, SpellsIndex text index := by
  unfold readIndex? at read
  split at read
  rename_i isNegative body parted
  dsimp only at read
  split at read
  case isFalse => cases read
  case isTrue numerals =>
    have grouped := grouped_of_split numerals
    unfold splitSign at parted
    split at parted
    · cases parted
      exact ⟨_, .negative grouped⟩
    · cases parted
      exact ⟨_, .positive grouped⟩
    · cases parted
      exact ⟨_, .unsigned grouped⟩

/-! ## Selecting -/

theorem select?_of_inside {batch : List Message} {position : Nat}
    (inside : position + 1 < batch.length) :
    select? (position + 1) batch = some batch[position] := by
  have place : ((position : Int) + 1 - 1).toNat = position := by omega
  rw [select?, if_pos (by omega), place, List.getElem?_eq_getElem]

theorem select?_of_outside {batch : List Message} {index : Int}
    (outside : ¬ (1 ≤ index ∧ index < batch.length)) : select? index batch = none :=
  if_neg outside

theorem mem_dropLast_of_select? {batch : List Message} {index : Int} {message : Message}
    (selected : select? index batch = some message) : message ∈ batch.dropLast := by
  unfold select? at selected
  split at selected
  case isFalse => cases selected
  case isTrue inside =>
    have place : (index - 1).toNat < batch.dropLast.length := by
      rw [List.length_dropLast]
      omega
    obtain ⟨_, rfl⟩ := List.getElem?_eq_some_iff.mp selected
    rw [← List.getElem_dropLast place]
    exact List.getElem_mem place

/-! ## Summary -/

/-- A completion that is to be an index, of whatever size, selects the message at its
place, counted from one, unless that is the last message or none at all. Any other text is
refused as it is. Only the content of the completion matters, and the last message is out
of reach. A batch is held in memory, so that a word with a sign holds its length. -/
theorem interpret_index (completion : Message) (batch : List Message)
    (held : Word.isSigned batch.length = true) :
    (∀ index, SpellsIndex (stripThought completion.content).toList index →
      (∀ (position : Nat) (inside : position + 1 < batch.length), index = position + 1 →
        interpret .index (some completion) batch = .ok (some batch[position])) ∧
      (¬ (1 ≤ index ∧ index < batch.length) →
        interpret .index (some completion) batch = .ok none)) ∧
    ((∀ index, ¬ SpellsIndex (stripThought completion.content).toList index) →
      interpret .index (some completion) batch =
        .error (.notAnIndex (stripThought completion.content))) ∧
    (∀ role name, interpret .index (some { completion with role, name }) batch =
      interpret .index (some completion) batch) ∧
    ∀ message, interpret .index (some completion) batch = .ok (some message) →
      message ∈ batch.dropLast := by
  refine ⟨fun index spelled => ⟨?_, ?_⟩, ?_, ?_, ?_⟩
  · intro position inside same
    have fits : Word.isSigned index = true := by
      rw [Word.isSigned_iff] at held ⊢
      omega
    simp only [interpret, readIndex?_of_spellsIndex spelled, fits, if_true]
    rw [same, select?_of_inside inside]
  · intro outside
    simp only [interpret, readIndex?_of_spellsIndex spelled]
    by_cases fits : Word.isSigned index = true
    · simp only [fits, if_true, select?_of_outside outside]
    · simp only [fits, Bool.false_eq_true, if_false]
  · intro unspelled
    cases read : readIndex? (stripThought completion.content).toList with
    | none => simp only [interpret, read]
    | some value =>
        obtain ⟨index, spelled⟩ := exists_spellsIndex_of_readIndex? read
        exact absurd spelled (unspelled index)
  · intro role name
    simp only [interpret]
  · intro message selected
    simp only [interpret] at selected
    split at selected
    · cases selected
    · cases selected
    · exact mem_dropLast_of_select? (Except.ok.inj selected)

/-- A completion that thinks first, and then counts to two with a sign, a leading zero and
an underscore. -/
def countingCompletion : Message :=
  .assistant "<thought>1 or 3?</thought> +0_2\n"

def threeMessages : List Message := [.system "first", .user "second", .user "third"]

/-- It selects the second of three messages, which is not the last. -/
theorem interpret_secondOfThree :
    Word.isSigned threeMessages.length = true ∧
      SpellsIndex (stripThought countingCompletion.content).toList 2 ∧
      interpret .index (some countingCompletion) threeMessages = .ok (some (.user "second")) ∧
      Message.user "second" ∈ threeMessages.dropLast := by
  have held : Word.isSigned threeMessages.length = true := by decide
  have digits : Grouped ['0', '_', '2'] ['0', '2'] := by
    have zero : ∀ c ∈ ['0'], isDigit c := List.forall_mem_singleton.mpr (by decide)
    have two : ∀ c ∈ ['2'], isDigit c := List.forall_mem_singleton.mpr (by decide)
    exact @Grouped.more ['0'] ['2'] ['2'] (by simp) zero (.last (by simp) two)
  have content : (stripThought countingCompletion.content).toList = ['+', '0', '_', '2'] := by
    decide +kernel
  have spelled : SpellsIndex (stripThought countingCompletion.content).toList 2 := by
    rw [content]
    exact .positive digits
  obtain ⟨spells, _, _, selected⟩ := interpret_index countingCompletion threeMessages held
  have second := (spells 2 spelled).1 1 (by decide) rfl
  exact ⟨held, spelled, second, selected _ second⟩

/-- Beyond a machine word there is no message, and two signs spell no index. -/
example :
    interpret .index (some (.assistant "000_18446744073709551617")) threeMessages = .ok none ∧
      interpret .index (some (.assistant "+-1")) threeMessages = .error (.notAnIndex "+-1") := by
  decide +kernel

end PromptRelay
