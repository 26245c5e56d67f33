import PromptRelay.Proofs.Json.Passing
import PromptRelay.Proofs.Json.Shapes

/-!
Contract: a text that is a value is passed over exactly.

Owns:
- the grammar of the texts that may be passed over: keywords, numbers, strings, and lists and
  objects of such values, with blanks between tokens;
- that the bytes of such a text are those of a value;
- that skipping it goes on behind its last byte, however deep it is.

Does not own: bytes that are no text, and values that are read.

All but numbers end with a byte of their own; behind a number there has to be a byte that it
does not go on with.
-/

namespace PromptRelay.Json

open Text (Bytes utf8 utf8_cons utf8_append)

/-! ## Strings -/

/-- What a string that is passed over may have within its quotes. Unlike in one that is read,
a unit need not be one half of a pair. -/
inductive Literal : List Char → Prop where
  | nil : Literal []
  | plain {c : Char} {text : List Char} (noQuote : c ≠ '"') (noBackslash : c ≠ '\\')
      (noControl : 0x20 ≤ c.toNat) (onward : Literal text) : Literal (c :: text)
  | short {letter c : Char} {text : List Char} (known : (letter, c) ∈ shortEscapes)
      (onward : Literal text) : Literal ('\\' :: letter :: text)
  | unit {digits text : List Char} {unit : Nat} (spelled : SpellsUnit digits unit)
      (onward : Literal text) : Literal ('\\' :: 'u' :: (digits ++ text))

theorem exists_pieces_plain {start input rest : Bytes} (plain : ∀ byte ∈ start, IsPlain byte)
    (onward : ∃ pieces, Pieces input pieces rest) :
    ∃ pieces, Pieces (start ++ input) pieces rest := by
  induction start with
  | nil => exact onward
  | cons byte start inductionHypothesis =>
      obtain ⟨isPlain, others⟩ := List.forall_mem_cons.mp plain
      obtain ⟨pieces, spelled⟩ := inductionHypothesis others
      exact ⟨_, .plain isPlain spelled⟩

theorem exists_pieces_short {letter c : Char} (known : (letter, c) ∈ shortEscapes)
    {input rest : Bytes} (onward : ∃ pieces, Pieces input pieces rest) :
    ∃ pieces, Pieces (utf8 ['\\', letter] ++ input) pieces rest := by
  obtain ⟨pieces, spelled⟩ := onward
  simp only [shortEscapes, List.mem_cons, List.not_mem_nil, or_false, Prod.mk.injEq] at known
  rcases known with ⟨rfl, rfl⟩ | ⟨rfl, rfl⟩ | ⟨rfl, rfl⟩ | ⟨rfl, rfl⟩ | ⟨rfl, rfl⟩ |
    ⟨rfl, rfl⟩ | ⟨rfl, rfl⟩ | ⟨rfl, rfl⟩ <;> exact ⟨_, .short rfl spelled⟩

/-- The bytes of a string, behind its opening quote. -/
theorem Literal.exists_pieces {text : List Char} (literal : Literal text) (rest : Bytes) :
    ∃ pieces, Pieces (utf8 text ++ quote :: rest) pieces rest := by
  induction literal with
  | nil => exact ⟨[], .closed rest⟩
  | plain noQuote noBackslash noControl _ inductionHypothesis =>
      rw [utf8_cons, List.append_assoc]
      exact exists_pieces_plain (isPlain_of_mem_utf8EncodeChar noQuote noBackslash noControl)
        inductionHypothesis
  | @short letter _ text known _ inductionHypothesis =>
      have parted : utf8 ('\\' :: letter :: text) = utf8 ['\\', letter] ++ utf8 text :=
        utf8_append ['\\', letter] text
      rw [parted, List.append_assoc]
      exact exists_pieces_short known inductionHypothesis
  | @unit digits text _ spelled _ inductionHypothesis =>
      obtain ⟨pieces, onward⟩ := inductionHypothesis
      have parted : utf8 ('\\' :: 'u' :: (digits ++ text)) ++ quote :: rest =
          backslash :: letterU :: (utf8 digits ++ (utf8 text ++ quote :: rest)) := by
        rw [← List.append_assoc, ← utf8_append]
        rfl
      rw [parted]
      exact ⟨_, .unit (readUnit_eq_ok_iff.mp (readUnit_spelled spelled _)) onward⟩

/-! ## Grammar -/

namespace Bracket

def opening : Bracket → Char
  | .list => '['
  | .object => '\x7b'

def closing : Bracket → Char
  | .list => ']'
  | .object => '\x7d'

end Bracket

/-- The texts of values and of their parts. -/
inductive WellFormed : Part → List Char → Prop where
  | null : WellFormed .value writeNull
  | boolean (value : Bool) : WellFormed .value (writeBoolean value)
  | number {text : List Char} (isNumber : IsNumber text) : WellFormed .value text
  | string {text : List Char} (literal : Literal text) : WellFormed .value ('"' :: (text ++ ['"']))
  | bracketed (bracket : Bracket) {text : List Char}
      (inner : WellFormed (.rest bracket true) text) :
      WellFormed .value (bracket.opening :: text)
  | closed (bracket : Bracket) {isFirst : Bool} {gap : List Char} (isGap : IsGap gap) :
      WellFormed (.rest bracket isFirst) (gap ++ [bracket.closing])
  | item {isFirst : Bool} {lead text tail : List Char} (leads : Lead isFirst lead)
      (value : WellFormed .value text) (onward : WellFormed (.rest .list false) tail) :
      WellFormed (.rest .list isFirst) (lead ++ (text ++ tail))
  | member {isFirst : Bool} {lead name before after text tail : List Char}
      (leads : Lead isFirst lead) (literal : Literal name) (beforeIsGap : IsGap before)
      (afterIsGap : IsGap after) (value : WellFormed .value text)
      (onward : WellFormed (.rest .object false) tail) :
      WellFormed (.rest .object isFirst)
        (lead ++ '"' :: (name ++ '"' :: (before ++ ':' :: (after ++ (text ++ tail)))))

/-! ## Blanks -/

theorem blanks_gap {gap : List Char} (isGap : IsGap gap) (rest : Bytes) :
    Blanks (utf8 gap ++ rest) rest := by
  refine ⟨utf8 gap, fun byte member => ?_, rfl⟩
  obtain ⟨c, inGap, inChar⟩ := List.mem_flatMap.mp member
  rcases isGap c inGap with rfl | rfl | rfl | rfl <;>
    (rw [List.mem_singleton.mp inChar]; rfl)

theorem exists_onward {isFirst : Bool} {lead : List Char} (leads : Lead isFirst lead)
    (rest : Bytes) : ∃ within, Onward isFirst (utf8 lead ++ rest) within ∧ Blanks within rest := by
  cases leads with
  | first isGap => exact ⟨_, rfl, blanks_gap isGap rest⟩
  | @later before after beforeIsGap afterIsGap =>
      refine ⟨utf8 after ++ rest, ?_, blanks_gap afterIsGap rest⟩
      rw [utf8_append, List.append_assoc]
      exact blanks_gap beforeIsGap _

theorem ends_mark {gap : List Char} (isGap : IsGap gap) {mark : UInt8}
    (isMark : mark = comma ∨ mark = closeList ∨ mark = closeObject) (rest : Bytes) :
    Ends (utf8 gap ++ mark :: rest) :=
  ends_of_blanks (blanks_gap isGap _) isMark

theorem ends_later {lead : List Char} (leads : Lead false lead) (rest : Bytes) :
    Ends (utf8 lead ++ rest) := by
  obtain ⟨_, onward, _⟩ := exists_onward leads rest
  exact ends_of_blanks onward (.inl rfl)

/-! ## Values -/

/-- The part is spelled by the bytes between an input and what is behind it. -/
def Part.Spelled : Part → Bytes → Bytes → Prop
  | .value, input, behind => ∃ tree, Spells (.value tree) input behind
  | .rest .list isFirst, input, behind => ∃ trees, Spells (.items isFirst trees) input behind
  | .rest .object isFirst, input, behind =>
      ∃ members, Spells (.members isFirst members) input behind

theorem spelled_bracketed {bracket : Bracket} {between rest : Bytes}
    (inner : Part.Spelled (.rest bracket true) between rest) :
    Part.Spelled .value (bracket.openingMark :: between) rest := by
  cases bracket with
  | list =>
      obtain ⟨trees, items⟩ := inner
      exact ⟨.list trees, .list (.refl _) items⟩
  | object =>
      obtain ⟨members, inner⟩ := inner
      exact ⟨.object members, .object (.refl _) inner⟩

theorem spelled_closed (bracket : Bracket) (isFirst : Bool) {input rest : Bytes}
    (blanks : Blanks input (bracket.closingMark :: rest)) :
    Part.Spelled (.rest bracket isFirst) input rest := by
  cases bracket with
  | list => exact ⟨[], .closedList blanks⟩
  | object => exact ⟨[], .closedObject blanks⟩

/-- By induction on the text. -/
theorem WellFormed.spelled {part : Part} {text : List Char} (spelled : WellFormed part text)
    (rest : Bytes) : part.Spelled (utf8 text ++ rest) rest := by
  induction spelled generalizing rest with
  | null => exact ⟨.null, .null (.refl _)⟩
  | boolean value =>
      refine ⟨.boolean value, .boolean ?_⟩
      cases value <;> exact .refl _
  | number isNumber => exact ⟨.number, .number isNumber (.refl _)⟩
  | @string text literal =>
      obtain ⟨pieces, spelled⟩ := literal.exists_pieces rest
      have bytes : utf8 ('"' :: (text ++ ['"'])) ++ rest = quote :: (utf8 text ++ quote :: rest) := by
        rw [utf8_cons, utf8_append, List.append_assoc, List.append_assoc]
        rfl
      rw [bytes]
      exact ⟨_, .text (.refl _) spelled rfl⟩
  | bracketed bracket _ inductionHypothesis =>
      have opened := spelled_bracketed (inductionHypothesis rest)
      cases bracket <;> exact opened
  | @closed bracket isFirst gap isGap =>
      have bytes : utf8 (gap ++ [bracket.closing]) ++ rest =
          utf8 gap ++ bracket.closingMark :: rest := by
        rw [utf8_append, List.append_assoc]
        cases bracket <;> rfl
      rw [bytes]
      exact spelled_closed bracket isFirst (blanks_gap isGap _)
  | @item _ lead text tail leads _ _ valueHypothesis onwardHypothesis =>
      obtain ⟨trees, others⟩ := onwardHypothesis rest
      obtain ⟨tree, value⟩ := valueHypothesis (utf8 tail ++ rest)
      obtain ⟨within, onward, blanks⟩ := exists_onward leads (utf8 text ++ (utf8 tail ++ rest))
      rw [utf8_append, utf8_append, List.append_assoc, List.append_assoc]
      exact ⟨_, .item onward (value.after_blanks blanks) others⟩
  | @member _ lead name before after text tail leads literal beforeIsGap afterIsGap _ _
      valueHypothesis onwardHypothesis =>
      obtain ⟨members, others⟩ := onwardHypothesis rest
      obtain ⟨tree, value⟩ := valueHypothesis (utf8 tail ++ rest)
      have atValue := blanks_gap afterIsGap (utf8 text ++ (utf8 tail ++ rest))
      have atColon :=
        blanks_gap beforeIsGap (colon :: (utf8 after ++ (utf8 text ++ (utf8 tail ++ rest))))
      obtain ⟨pieces, named⟩ := literal.exists_pieces
        (utf8 before ++ colon :: (utf8 after ++ (utf8 text ++ (utf8 tail ++ rest))))
      obtain ⟨within, onward, blanks⟩ := exists_onward leads (quote :: (utf8 name ++ quote ::
        (utf8 before ++ colon :: (utf8 after ++ (utf8 text ++ (utf8 tail ++ rest))))))
      have bytes :
          utf8 (lead ++ '"' :: (name ++ '"' :: (before ++ ':' :: (after ++ (text ++ tail))))) ++
              rest =
            utf8 lead ++ quote :: (utf8 name ++ quote ::
              (utf8 before ++ colon :: (utf8 after ++ (utf8 text ++ (utf8 tail ++ rest))))) := by
        simp only [utf8_append, utf8_cons, List.append_assoc]
        rfl
      rw [bytes]
      exact ⟨_, .member onward blanks named rfl atColon (value.after_blanks atValue) others⟩

/-- A value is passed over up to its last byte, whatever blanks are before it. -/
theorem skipValue_wellFormed {gap text : List Char} (isGap : IsGap gap)
    (spelled : WellFormed .value text) {rest : Bytes} (ends : Ends rest) :
    skipValue (utf8 (gap ++ text) ++ rest) = .ok rest := by
  obtain ⟨tree, value⟩ := spelled.spelled rest
  rw [utf8_append, List.append_assoc]
  exact skipValue_of_spells (value.after_blanks (blanks_gap isGap _)) ends

end PromptRelay.Json
