import PromptRelay.Proofs.Json.Documents

/-!
Contract: a value is passed over exactly if it is one, up to its last byte.

Owns:
- where the skipper goes on in a value, given the brackets that are open;
- that it goes on behind a value that is spelled, however deep it is;
- that it finds nothing but values that are spelled.

Does not own: values that are read.

Skipping keeps the brackets that are open in a list instead of calling itself. A phrase is
therefore followed with any brackets around it, up to where the skipper goes on behind it; and
what the skipper finds is said together with what closes the brackets.
-/

namespace PromptRelay.Json

open Text (Bytes utf8)
open Result (ok_bind bind_eq_ok_iff)

/-! ## Places -/

def Bracket.openingMark : Bracket → UInt8
  | .list => openList
  | .object => openObject

def Bracket.closingMark : Bracket → UInt8
  | .list => closeList
  | .object => closeObject

/-- What a text may be: a value, or what is left within brackets, where there may have been an
item or a member before. -/
inductive Part where
  | value
  | rest (bracket : Bracket) (isFirst : Bool)

/-- Which part a phrase is. -/
def Phrase.part : Phrase → Part
  | .value _ => .value
  | .items isFirst _ => .rest .list isFirst
  | .members isFirst _ => .rest .object isFirst

/-- Goes on at an item or at the name of a member. -/
def enter (fuel : Nat) (bracket : Bracket) (brackets : List Bracket) (input : Bytes) :
    Except Fault Bytes :=
  match bracket with
  | .list => skipNested fuel (.list :: brackets) input
  | .object => skipNested.skipName fuel (.object :: brackets) input

/-- Where the skipper goes on, given what it is to find. -/
def follow (fuel : Nat) (brackets : List Bracket) : Part → Bytes → Except Fault Bytes
  | .value, input => skipNested fuel brackets input
  | .rest bracket true, input =>
    match skipSpace input with
    | [] => .error .truncated
    | next :: rest =>
      if next = bracket.closingMark then skipNested.skipTail fuel brackets rest
      else enter fuel bracket brackets (next :: rest)
  | .rest bracket false, input => skipNested.skipTail fuel (bracket :: brackets) input

section

variable {fuel : Nat} {bracket : Bracket} {brackets : List Bracket} {input other rest : Bytes}

theorem skipNested_congr (same : skipSpace input = skipSpace other) :
    skipNested fuel brackets input = skipNested fuel brackets other := by
  cases fuel with
  | zero => rw [skipNested, skipNested]
  | succ fuel => rw [skipNested, skipNested, same]

theorem skipName_congr (same : skipSpace input = skipSpace other) :
    skipNested.skipName fuel brackets input = skipNested.skipName fuel brackets other := by
  cases fuel with
  | zero => rw [skipNested.skipName, skipNested.skipName]
  | succ fuel => rw [skipNested.skipName, skipNested.skipName, same]

theorem enter_congr (same : skipSpace input = skipSpace other) :
    enter fuel bracket brackets input = enter fuel bracket brackets other := by
  cases bracket with
  | list => exact skipNested_congr same
  | object => exact skipName_congr same

theorem skipTail_cons :
    skipNested.skipTail (fuel + 1) (bracket :: brackets) input =
      match skipSpace input with
      | [] => .error .truncated
      | byte :: rest =>
        if byte = comma then enter fuel bracket brackets rest
        else if byte = bracket.closingMark then skipNested.skipTail fuel brackets rest
        else .error .malformed := by
  cases bracket with
  | list =>
      rw [skipNested.skipTail]
      rfl
  | object =>
      rw [skipNested.skipTail]
      rfl

theorem skipTail_comma (found : skipSpace input = comma :: rest) :
    skipNested.skipTail (fuel + 1) (bracket :: brackets) input =
      enter fuel bracket brackets rest := by
  rw [skipTail_cons, found]
  exact if_pos rfl

theorem skipTail_closed (found : skipSpace input = bracket.closingMark :: rest) :
    skipNested.skipTail (fuel + 1) (bracket :: brackets) input =
      skipNested.skipTail fuel brackets rest := by
  have other : bracket.closingMark ≠ comma := by cases bracket <;> decide
  rw [skipTail_cons, found]
  dsimp only
  rw [if_neg other, if_pos rfl]

end

/-! ## Values that are spelled are passed over -/

/-- The skipper finds the part, and goes on behind it with the brackets around it. It takes no
more tokens than there are bytes. -/
def PassesOver (part : Part) (input rest : Bytes) : Prop :=
  ∀ brackets fuel, Ends rest → input.length ≤ fuel + rest.length →
    ∃ left, fuel + rest.length ≤ left + input.length ∧
      follow fuel brackets part input = skipNested.skipTail left brackets rest

/-- A value of one token. -/
theorem passesOver_token {input rest : Bytes} (isNonempty : rest.length < input.length)
    (skipped : ∀ fuel brackets, Ends rest →
      skipNested (fuel + 1) brackets input = skipNested.skipTail fuel brackets rest) :
    PassesOver .value input rest := by
  intro brackets fuel ends enough
  obtain ⟨left, rfl⟩ : ∃ left, fuel = left + 1 := ⟨fuel - 1, by omega⟩
  exact ⟨left, by omega, skipped left brackets ends⟩

theorem skipNested_null {input rest : Bytes} (blanks : Blanks input (letterN :: (nullTail ++ rest)))
    (fuel : Nat) (brackets : List Bracket) :
    skipNested (fuel + 1) brackets input = skipNested.skipTail fuel brackets rest := by
  rw [skipNested, blanks.skipSpace rfl]
  show (expect nullTail (nullTail ++ rest) >>= _) = _
  rw [expect_append]
  rfl

theorem skipNested_boolean {value : Bool} {input rest : Bytes}
    (blanks : Blanks input (booleanTail value ++ rest)) (fuel : Nat) (brackets : List Bracket) :
    skipNested (fuel + 1) brackets input = skipNested.skipTail fuel brackets rest := by
  cases value with
  | true =>
      have opened : Blanks input (letterT :: (trueTail ++ rest)) := blanks
      rw [skipNested, opened.skipSpace rfl]
      show (expect trueTail (trueTail ++ rest) >>= _) = _
      rw [expect_append]
      rfl
  | false =>
      have opened : Blanks input (letterF :: (falseTail ++ rest)) := blanks
      rw [skipNested, opened.skipSpace rfl]
      show (expect falseTail (falseTail ++ rest) >>= _) = _
      rw [expect_append]
      rfl

theorem skipNested_number {text : List Char} (isNumber : IsNumber text) {input rest : Bytes}
    (blanks : Blanks input (utf8 text ++ rest)) (ends : Ends rest) (fuel : Nat)
    (brackets : List Bracket) :
    skipNested (fuel + 1) brackets input = skipNested.skipTail fuel brackets rest := by
  obtain ⟨byte, others, numeral, bytes, ⟨rfl, read⟩ | ⟨isDigit, read⟩⟩ :=
    isNumber.reads .malformed ends
  · rw [bytes] at blanks
    rw [skipNested, blanks.skipSpace rfl]
    show (readNumeral .malformed others >>= _) = _
    rw [read]
    rfl
  · have other {mark : UInt8} (noDigit : isDigitByte mark = false) : byte ≠ mark :=
      ne_of_isDigitByte isDigit noDigit
    rw [bytes] at blanks
    rw [skipNested, blanks.skipSpace (isSpace_of_isDigitByte isDigit)]
    dsimp only
    rw [if_neg (other rfl), if_neg (other rfl), if_neg (other rfl), if_neg (other rfl),
      if_pos isDigit, read]
    rfl

theorem skipNested_string {pieces : List Piece} {input between rest : Bytes}
    (blanks : Blanks input (quote :: between)) (spelled : Pieces between pieces rest) (fuel : Nat)
    (brackets : List Bracket) :
    skipNested (fuel + 1) brackets input = skipNested.skipTail fuel brackets rest := by
  rw [skipNested, blanks.skipSpace rfl]
  show (skipQuoted (between.length + 1) between >>= _) = _
  rw [skipQuoted_of_pieces spelled (Nat.lt_succ_self _)]
  rfl

/-- Behind its opening mark a list or an object is followed as what is left within. -/
theorem skipNested_opening {bracket : Bracket} {input between : Bytes}
    (blanks : Blanks input (bracket.openingMark :: between)) (fuel : Nat)
    (brackets : List Bracket) :
    skipNested (fuel + 1) brackets input =
      follow fuel brackets (.rest bracket true) between := by
  cases bracket with
  | list =>
      rw [skipNested, blanks.skipSpace rfl]
      rfl
  | object =>
      rw [skipNested, blanks.skipSpace rfl]
      rfl

theorem passesOver_bracketed (bracket : Bracket) {input between rest : Bytes}
    (blanks : Blanks input (bracket.openingMark :: between)) (isNonempty : rest.length < input.length)
    (inner : PassesOver (.rest bracket true) between rest) : PassesOver .value input rest := by
  intro brackets fuel ends enough
  have within := blanks.length_le
  rw [List.length_cons] at within
  obtain ⟨left, rfl⟩ : ∃ left, fuel = left + 1 := ⟨fuel - 1, by omega⟩
  obtain ⟨last, room, followed⟩ := inner brackets left ends (by omega)
  refine ⟨last, by omega, ?_⟩
  rw [follow, skipNested_opening blanks]
  exact followed

theorem passesOver_closed (bracket : Bracket) (isFirst : Bool) {input rest : Bytes}
    (blanks : Blanks input (bracket.closingMark :: rest)) :
    PassesOver (.rest bracket isFirst) input rest := by
  intro brackets fuel ends enough
  have within := blanks.length_le
  rw [List.length_cons] at within
  have found : skipSpace input = bracket.closingMark :: rest :=
    blanks.skipSpace (by cases bracket <;> rfl)
  cases isFirst with
  | true =>
      refine ⟨fuel, by omega, ?_⟩
      rw [follow, found]
      exact if_pos rfl
  | false =>
      obtain ⟨left, rfl⟩ : ∃ left, fuel = left + 1 := ⟨fuel - 1, by omega⟩
      exact ⟨left, by omega, skipTail_closed found⟩

/-- Within brackets the skipper goes to the next item or member, unless they are closed. -/
theorem follow_onward (bracket : Bracket) {isFirst : Bool} {input within : Bytes}
    (onward : Onward isFirst input within) {byte : UInt8} {others : Bytes}
    (found : skipSpace within = byte :: others) (noClosing : byte ≠ bracket.closingMark)
    (brackets : List Bracket) (fuel : Nat) (enough : input.length ≤ fuel + within.length) :
    ∃ left, fuel + within.length ≤ left + input.length ∧
      follow fuel brackets (.rest bracket isFirst) input = enter left bracket brackets within := by
  cases isFirst with
  | true =>
      have same : input = within := onward
      subst same
      refine ⟨fuel, Nat.le_refl _, ?_⟩
      rw [follow, found]
      dsimp only
      rw [if_neg noClosing]
      exact enter_congr (blanks_of_skipSpace found).skipSpace_eq.symm
  | false =>
      have blanks : Blanks input (comma :: within) := onward
      have shorter := blanks.length_le
      rw [List.length_cons] at shorter
      obtain ⟨left, rfl⟩ : ∃ left, fuel = left + 1 := ⟨fuel - 1, by omega⟩
      exact ⟨left, by omega, skipTail_comma (blanks.skipSpace rfl)⟩

theorem passesOver_item {isFirst : Bool} {tree : Tree} {trees : List Tree}
    {input atItem behind rest : Bytes} (onward : Onward isFirst input atItem)
    (value : Spells (.value tree) atItem behind)
    (others : Spells (.items false trees) behind rest)
    (passesValue : PassesOver .value atItem behind)
    (passesOthers : PassesOver (.rest .list false) behind rest) :
    PassesOver (.rest .list isFirst) input rest := by
  intro brackets fuel ends enough
  have valueSize := value.size_le
  have othersSize := others.size_le
  have shorter := onward.length_le
  simp only [Phrase.size] at valueSize othersSize
  obtain ⟨byte, bytes, found, opens, _⟩ := value.begins
  obtain ⟨first, firstRoom, entered⟩ := follow_onward .list onward found
    (opens.ne (.inl rfl)) brackets fuel (by omega)
  obtain ⟨second, secondRoom, skipped⟩ :=
    passesValue (.list :: brackets) first others.ends_items (by omega)
  obtain ⟨last, lastRoom, followed⟩ := passesOthers brackets second ends (by omega)
  refine ⟨last, by omega, ?_⟩
  calc
    follow fuel brackets (.rest .list isFirst) input =
        skipNested first (.list :: brackets) atItem := entered
    _ = skipNested.skipTail second (.list :: brackets) behind := skipped
    _ = skipNested.skipTail last brackets rest := followed

/-- A name with its colon. -/
theorem skipName_member {pieces : List Piece} {atMember inName behindName atValue : Bytes}
    (blanks : Blanks atMember (quote :: inName)) (named : Pieces inName pieces behindName)
    (colonBlanks : Blanks behindName (colon :: atValue)) (fuel : Nat) (brackets : List Bracket) :
    skipNested.skipName (fuel + 1) brackets atMember = skipNested fuel brackets atValue := by
  rw [skipNested.skipName, blanks.skipSpace rfl]
  show (skipQuoted (inName.length + 1) inName >>= _) = _
  rw [skipQuoted_of_pieces named (Nat.lt_succ_self _), ok_bind, colonBlanks.skipSpace rfl]
  rfl

theorem passesOver_member {isFirst : Bool} {pieces : List Piece} {tree : Tree}
    {members : List (Option String × Tree)}
    {input atMember inName behindName atValue behind rest : Bytes}
    (onward : Onward isFirst input atMember) (blanks : Blanks atMember (quote :: inName))
    (named : Pieces inName pieces behindName) (colonBlanks : Blanks behindName (colon :: atValue))
    (value : Spells (.value tree) atValue behind)
    (others : Spells (.members false members) behind rest)
    (passesValue : PassesOver .value atValue behind)
    (passesOthers : PassesOver (.rest .object false) behind rest) :
    PassesOver (.rest .object isFirst) input rest := by
  intro brackets fuel ends enough
  have valueSize := value.size_le
  have othersSize := others.size_le
  have shorter := onward.length_le
  have shorterMember := blanks.length_le
  have shorterName := named.length_lt
  have shorterColon := colonBlanks.length_le
  simp only [Phrase.size] at valueSize othersSize
  simp only [List.length_cons] at shorterMember shorterColon
  obtain ⟨first, firstRoom, entered⟩ := follow_onward .object onward
    (blanks.skipSpace rfl) (by decide) brackets fuel (by omega)
  obtain ⟨atColon, rfl⟩ : ∃ atColon, first = atColon + 1 := ⟨first - 1, by omega⟩
  obtain ⟨second, secondRoom, skipped⟩ :=
    passesValue (.object :: brackets) atColon others.ends_members (by omega)
  obtain ⟨last, lastRoom, followed⟩ := passesOthers brackets second ends (by omega)
  refine ⟨last, by omega, ?_⟩
  calc
    follow fuel brackets (.rest .object isFirst) input =
        skipNested.skipName (atColon + 1) (.object :: brackets) atMember := entered
    _ = skipNested atColon (.object :: brackets) atValue :=
      skipName_member blanks named colonBlanks _ _
    _ = skipNested.skipTail second (.object :: brackets) behind := skipped
    _ = skipNested.skipTail last brackets rest := followed

/-- By induction on what is spelled, for any brackets around it. -/
theorem Spells.passesOver {phrase : Phrase} {input rest : Bytes}
    (spelled : Spells phrase input rest) : PassesOver phrase.part input rest := by
  induction spelled with
  | null blanks =>
      exact passesOver_token (Spells.null blanks).size_le fun fuel brackets _ =>
        skipNested_null blanks fuel brackets
  | boolean blanks =>
      exact passesOver_token (Spells.boolean blanks).size_le fun fuel brackets _ =>
        skipNested_boolean blanks fuel brackets
  | number isNumber blanks =>
      exact passesOver_token (Spells.number isNumber blanks).size_le fun fuel brackets ends =>
        skipNested_number isNumber blanks ends fuel brackets
  | text blanks spelled meant =>
      exact passesOver_token (Spells.text blanks spelled meant).size_le fun fuel brackets _ =>
        skipNested_string blanks spelled fuel brackets
  | list blanks items inner =>
      exact passesOver_bracketed .list blanks (Spells.list blanks items).size_le inner
  | object blanks members inner =>
      exact passesOver_bracketed .object blanks (Spells.object blanks members).size_le inner
  | closedList blanks => exact passesOver_closed .list _ blanks
  | closedObject blanks => exact passesOver_closed .object _ blanks
  | item onward value others passesValue passesOthers =>
      exact passesOver_item onward value others passesValue passesOthers
  | member onward blanks named _ colonBlanks value others passesValue passesOthers =>
      exact passesOver_member onward blanks named colonBlanks value others passesValue passesOthers

theorem skipValue_of_spells {tree : Tree} {input rest : Bytes}
    (spelled : Spells (.value tree) input rest) (ends : Ends rest) :
    skipValue input = .ok rest := by
  obtain ⟨left, _, followed⟩ := spelled.passesOver [] (2 * input.length + 2) ends (by omega)
  exact followed.trans (skipNested.skipTail.eq_1 left rest)

/-! ## What is passed over is a value -/

/-- What closes brackets that are open, innermost first. -/
inductive Closes : List Bracket → Bytes → Bytes → Prop where
  | none (rest : Bytes) : Closes [] rest rest
  | list {brackets : List Bracket} {trees : List Tree} {input between rest : Bytes}
      (items : Spells (.items false trees) input between) (onward : Closes brackets between rest) :
      Closes (.list :: brackets) input rest
  | object {brackets : List Bracket} {members : List (Option String × Tree)}
      {input between rest : Bytes} (inner : Spells (.members false members) input between)
      (onward : Closes brackets between rest) : Closes (.object :: brackets) input rest

/-- What the skipper finds with so much fuel: a value, what closes brackets, or a member, always
with what closes the brackets around it. -/
structure FindsValues (fuel : Nat) : Prop where
  value : ∀ {brackets : List Bracket} {input rest : Bytes},
    skipNested fuel brackets input = .ok rest →
      ∃ tree behind, Spells (.value tree) input behind ∧ Closes brackets behind rest
  tail : ∀ {brackets : List Bracket} {input rest : Bytes},
    skipNested.skipTail fuel brackets input = .ok rest → Closes brackets input rest
  name : ∀ {brackets : List Bracket} {input rest : Bytes},
    skipNested.skipName fuel (.object :: brackets) input = .ok rest →
      ∃ members behind, Spells (.members true members) input behind ∧
        members ≠ [] ∧ Closes brackets behind rest

theorem Spells.after_blanks_first {members : List (Option String × Tree)}
    {input between rest : Bytes} (before : Blanks input between)
    (spelled : Spells (.members true members) between rest) :
    Spells (.members true members) input rest := by
  cases spelled with
  | closedObject blanks => exact .closedObject (before.trans blanks)
  | member onward blanks named meant colonBlanks value others =>
      have same : between = _ := onward
      subst same
      exact .member rfl (before.trans blanks) named meant colonBlanks value others

namespace FindsValues

variable {fuel : Nat} (finds : FindsValues fuel) {brackets : List Bracket} {input rest : Bytes}
include finds

/-- A value that is not bracketed, with what closes the brackets around it. -/
theorem of_token {tree : Tree} {behind : Bytes} (spelled : Spells (.value tree) input behind)
    (onward : skipNested.skipTail fuel brackets behind = .ok rest) :
    ∃ tree behind, Spells (.value tree) input behind ∧ Closes brackets behind rest :=
  ⟨tree, behind, spelled, finds.tail onward⟩

/-- Behind the opening mark of a list. -/
theorem of_list {between : Bytes} (blanks : Blanks input (openList :: between))
    (followed : follow fuel brackets (.rest .list true) between = .ok rest) :
    ∃ tree behind, Spells (.value tree) input behind ∧ Closes brackets behind rest := by
  cases found : skipSpace between with
  | nil =>
      rw [follow, found] at followed
      cases followed
  | cons next others =>
      have within := blanks_of_skipSpace found
      rw [follow, found] at followed
      dsimp only at followed
      split at followed
      case isTrue isClosed =>
        rw [isClosed] at within
        exact finds.of_token (.list blanks (.closedList within)) followed
      case isFalse =>
        obtain ⟨tree, behind, value, closes⟩ := finds.value followed
        cases closes with
        | list items onward =>
            exact ⟨_, _, .list blanks (.item rfl (value.after_blanks within) items), onward⟩

/-- Behind the opening mark of an object. -/
theorem of_object {between : Bytes} (blanks : Blanks input (openObject :: between))
    (followed : follow fuel brackets (.rest .object true) between = .ok rest) :
    ∃ tree behind, Spells (.value tree) input behind ∧ Closes brackets behind rest := by
  cases found : skipSpace between with
  | nil =>
      rw [follow, found] at followed
      cases followed
  | cons next others =>
      have within := blanks_of_skipSpace found
      rw [follow, found] at followed
      dsimp only at followed
      split at followed
      case isTrue isClosed =>
        rw [isClosed] at within
        exact finds.of_token (.object blanks (.closedObject within)) followed
      case isFalse =>
        obtain ⟨members, behind, spelled, _, closes⟩ := finds.name followed
        exact ⟨_, _, .object blanks (spelled.after_blanks_first within), closes⟩

/-- A value is known by its first byte. -/
theorem value_succ (skipped : skipNested (fuel + 1) brackets input = .ok rest) :
    ∃ tree behind, Spells (.value tree) input behind ∧ Closes brackets behind rest := by
  cases found : skipSpace input with
  | nil =>
      rw [skipNested, found] at skipped
      cases skipped
  | cons byte others =>
      have blanks := blanks_of_skipSpace found
      rw [skipNested, found] at skipped
      dsimp only at skipped
      by_cases isNull : byte = letterN
      · rw [if_pos isNull] at skipped
        obtain ⟨behind, expected, onward⟩ := bind_eq_ok_iff.mp skipped
        rw [isNull, eq_of_expect expected] at blanks
        exact finds.of_token (.null blanks) onward
      rw [if_neg isNull] at skipped
      by_cases isTrue : byte = letterT
      · rw [if_pos isTrue] at skipped
        obtain ⟨behind, expected, onward⟩ := bind_eq_ok_iff.mp skipped
        rw [isTrue, eq_of_expect expected] at blanks
        exact finds.of_token (@Spells.boolean true _ _ blanks) onward
      rw [if_neg isTrue] at skipped
      by_cases isFalse : byte = letterF
      · rw [if_pos isFalse] at skipped
        obtain ⟨behind, expected, onward⟩ := bind_eq_ok_iff.mp skipped
        rw [isFalse, eq_of_expect expected] at blanks
        exact finds.of_token (@Spells.boolean false _ _ blanks) onward
      rw [if_neg isFalse] at skipped
      by_cases isMinus : byte = minus
      · rw [if_pos isMinus] at skipped
        obtain ⟨⟨numeral, behind⟩, read, onward⟩ := bind_eq_ok_iff.mp skipped
        obtain ⟨text, isNumber, bytes⟩ := exists_parts_of_readNumeral read
        rw [isMinus, bytes] at blanks
        exact finds.of_token (.number (isNumber ['-'] (.inr rfl)) blanks) onward
      rw [if_neg isMinus] at skipped
      by_cases isDigit : isDigitByte byte = true
      · rw [if_pos isDigit] at skipped
        obtain ⟨⟨numeral, behind⟩, read, onward⟩ := bind_eq_ok_iff.mp skipped
        obtain ⟨text, isNumber, bytes⟩ := exists_parts_of_readNumeral read
        rw [bytes] at blanks
        exact finds.of_token (.number (isNumber [] (.inl rfl)) blanks) onward
      rw [if_neg isDigit] at skipped
      by_cases isQuote : byte = quote
      · rw [if_pos isQuote] at skipped
        obtain ⟨behind, skippedString, onward⟩ := bind_eq_ok_iff.mp skipped
        obtain ⟨pieces, spelled⟩ := exists_pieces_of_skipQuoted skippedString
        rw [isQuote] at blanks
        exact finds.of_token (.text blanks spelled rfl) onward
      rw [if_neg isQuote] at skipped
      by_cases isList : byte = openList
      · rw [if_pos isList] at skipped
        rw [isList] at blanks
        exact finds.of_list blanks skipped
      rw [if_neg isList] at skipped
      by_cases isObject : byte = openObject
      · rw [if_pos isObject] at skipped
        rw [isObject] at blanks
        exact finds.of_object blanks skipped
      rw [if_neg isObject] at skipped
      cases skipped

theorem tail_succ (skipped : skipNested.skipTail (fuel + 1) brackets input = .ok rest) :
    Closes brackets input rest := by
  cases brackets with
  | nil =>
      rw [skipNested.skipTail.eq_1] at skipped
      cases skipped
      exact .none _
  | cons bracket brackets =>
      rw [skipTail_cons] at skipped
      cases found : skipSpace input with
      | nil =>
          rw [found] at skipped
          cases skipped
      | cons byte others =>
          have blanks := blanks_of_skipSpace found
          rw [found] at skipped
          dsimp only at skipped
          by_cases isComma : byte = comma
          · subst isComma
            rw [if_pos rfl] at skipped
            cases bracket with
            | list =>
                obtain ⟨tree, behind, value, closes⟩ := finds.value skipped
                cases closes with
                | list items onward => exact .list (.item blanks value items) onward
            | object =>
                obtain ⟨members, behind, spelled, isNonempty, closes⟩ := finds.name skipped
                exact .object (spelled.later_members blanks isNonempty) closes
          rw [if_neg isComma] at skipped
          by_cases isClosed : byte = bracket.closingMark
          · subst isClosed
            rw [if_pos rfl] at skipped
            cases bracket with
            | list => exact .list (.closedList blanks) (finds.tail skipped)
            | object => exact .object (.closedObject blanks) (finds.tail skipped)
          rw [if_neg isClosed] at skipped
          cases skipped

theorem name_succ (skipped : skipNested.skipName (fuel + 1) (.object :: brackets) input = .ok rest) :
    ∃ members behind, Spells (.members true members) input behind ∧
      members ≠ [] ∧ Closes brackets behind rest := by
  cases found : skipSpace input with
  | nil =>
      rw [skipNested.skipName, found] at skipped
      cases skipped
  | cons byte others =>
      have blanks := blanks_of_skipSpace found
      rw [skipNested.skipName, found] at skipped
      dsimp only at skipped
      split at skipped
      case isTrue isQuote =>
        subst isQuote
        obtain ⟨behindName, skippedName, onward⟩ := bind_eq_ok_iff.mp skipped
        obtain ⟨pieces, named⟩ := exists_pieces_of_skipQuoted skippedName
        cases foundColon : skipSpace behindName with
        | nil =>
            rw [foundColon] at onward
            cases onward
        | cons mark atValue =>
            have colonBlanks := blanks_of_skipSpace foundColon
            rw [foundColon] at onward
            dsimp only at onward
            split at onward
            case isTrue isColon =>
              subst isColon
              obtain ⟨tree, behind, value, closes⟩ := finds.value onward
              cases closes with
              | object inner onward =>
                  exact ⟨_, _, .member rfl blanks named rfl colonBlanks value inner,
                    List.cons_ne_nil _ _, onward⟩
            case isFalse => cases onward
      case isFalse => cases skipped

end FindsValues

theorem findsValues (fuel : Nat) : FindsValues fuel := by
  induction fuel with
  | zero =>
      refine ⟨fun skipped => ?_, fun {brackets} _ _ skipped => ?_, fun skipped => ?_⟩
      · rw [skipNested] at skipped
        cases skipped
      · cases brackets with
        | nil =>
            rw [skipNested.skipTail.eq_1] at skipped
            cases skipped
            exact .none _
        | cons => cases skipped
      · rw [skipNested.skipName] at skipped
        cases skipped
  | succ fuel finds => exact ⟨finds.value_succ, finds.tail_succ, finds.name_succ⟩

theorem exists_spells_of_skipValue {input rest : Bytes} (skipped : skipValue input = .ok rest) :
    ∃ tree, Spells (.value tree) input rest := by
  obtain ⟨tree, behind, spelled, closes⟩ := (findsValues _).value skipped
  cases closes
  exact ⟨tree, spelled⟩

end PromptRelay.Json
