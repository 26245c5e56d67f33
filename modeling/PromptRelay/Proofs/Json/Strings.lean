import PromptRelay.Proofs.Json.Quoted

/-!
Contract: the bytes of a string, and what both of its readers make of them.

Owns:
- the grammar of what stands behind an opening quote, up to the closing one;
- the text that a string has, if it has one: escaped halves of surrogate pairs have to meet,
  and all octets together have to be UTF-8;
- that exactly the strings of the grammar are passed over, and that exactly those of them that
  have a text are read.

Does not own: the spellings of a given text.
-/

namespace PromptRelay.Json

open Text (Bytes bytes utf8 utf8_cons utf8_append)
open Result (ok_bind bind_eq_ok_iff)

/-! ## Grammar -/

/-- Four digits in base sixteen, the unit of sixteen bits that they spell, and what follows. -/
inductive UnitText : Bytes → Nat → Bytes → Prop where
  | digits {a b c d : UInt8} {first second third fourth : Nat} {rest : Bytes}
      (isFirst : hexValue? a = some first) (isSecond : hexValue? b = some second)
      (isThird : hexValue? c = some third) (isFourth : hexValue? d = some fourth) :
      UnitText (a :: b :: c :: d :: rest)
        (((first * 16 + second) * 16 + third) * 16 + fourth) rest

/-- A part of a string within its quotes: an octet, be it as it is or as an escape of one
letter, or an escaped unit of sixteen bits. -/
inductive Piece where
  | octet (value : UInt8)
  | unit (value : Nat)
deriving DecidableEq, Repr

/-- The bytes behind an opening quote that spell pieces up to the closing one, and what
follows. -/
inductive Pieces : Bytes → List Piece → Bytes → Prop where
  | closed (rest : Bytes) : Pieces (quote :: rest) [] rest
  | plain {byte : UInt8} {input rest : Bytes} {pieces : List Piece} (isPlain : IsPlain byte)
      (onward : Pieces input pieces rest) : Pieces (byte :: input) (.octet byte :: pieces) rest
  | short {letter value : UInt8} {input rest : Bytes} {pieces : List Piece}
      (known : shortEscape? letter = some value) (onward : Pieces input pieces rest) :
      Pieces (backslash :: letter :: input) (.octet value :: pieces) rest
  | unit {unit : Nat} {input between rest : Bytes} {pieces : List Piece}
      (spelled : UnitText input unit between) (onward : Pieces between pieces rest) :
      Pieces (backslash :: letterU :: input) (.unit unit :: pieces) rest

/-! ## Texts -/

/-- A unit that is no half of a surrogate pair. -/
abbrev IsWholeUnit (unit : Nat) : Prop :=
  unit < 0xD800 ∨ 0xDFFF < unit

/-- Two units that are the halves of a surrogate pair, the leading one first. -/
abbrev IsPair (leading trailing : Nat) : Prop :=
  (0xD800 ≤ leading ∧ leading ≤ 0xDBFF) ∧ 0xDC00 ≤ trailing ∧ trailing ≤ 0xDFFF

/-- The character of a surrogate pair. -/
def pairChar (leading trailing : Nat) : Char :=
  Char.ofNat (0x10000 + (leading - 0xD800) * 0x400 + (trailing - 0xDC00))

/-- The octets that pieces amount to, unless half of a surrogate pair is alone. -/
def octets? : List Piece → Option Bytes
  | [] => some []
  | .octet value :: pieces => (octets? pieces).map (value :: ·)
  | .unit unit :: pieces =>
    if IsWholeUnit unit then
      (octets? pieces).map (String.utf8EncodeChar (Char.ofNat unit) ++ ·)
    else
      match pieces with
      | .unit trailing :: pieces =>
        if IsPair unit trailing then
          (octets? pieces).map (String.utf8EncodeChar (pairChar unit trailing) ++ ·)
        else
          none
      | _ => none

theorem octets?_unit (unit : Nat) (pieces : List Piece) :
    octets? (.unit unit :: pieces) =
      if IsWholeUnit unit then
        (octets? pieces).map (String.utf8EncodeChar (Char.ofNat unit) ++ ·)
      else
        match pieces with
        | .unit trailing :: pieces =>
          if IsPair unit trailing then
            (octets? pieces).map (String.utf8EncodeChar (pairChar unit trailing) ++ ·)
          else
            none
        | _ => none := by
  rw [octets?.eq_def]

/-- The text of a string, if it has one. -/
def textOf? (pieces : List Piece) : Option String :=
  (octets? pieces).bind Text.ofBytes?

/-! ## Units -/

theorem readUnit_eq_ok_iff {input rest : Bytes} {unit : Nat} :
    readUnit input = .ok (unit, rest) ↔ UnitText input unit rest := by
  constructor
  · intro read
    match input with
    | [] | [_] | [_, _] | [_, _, _] => cases read
    | a :: b :: c :: d :: rest =>
        rw [readUnit] at read
        split at read
        case h_1 isFirst isSecond isThird isFourth =>
          cases read
          exact .digits isFirst isSecond isThird isFourth
        case h_2 => cases read
  · rintro ⟨isFirst, isSecond, isThird, isFourth⟩
    rw [readUnit, isFirst, isSecond, isThird, isFourth]

theorem UnitText.length {input rest : Bytes} {unit : Nat} (spelled : UnitText input unit rest) :
    input.length = rest.length + 4 := by
  cases spelled
  rfl

/-- Exactly the expected bytes are taken. -/
theorem eq_of_expect {expected input rest : Bytes} (taken : expect expected input = .ok rest) :
    input = expected ++ rest := by
  induction expected generalizing input with
  | nil =>
      cases taken
      rfl
  | cons byte expected inductionHypothesis =>
      cases input with
      | nil => cases taken
      | cons found input =>
          rw [expect] at taken
          split at taken
          case isTrue same => rw [same, inductionHypothesis taken, List.cons_append]
          case isFalse => cases taken

theorem expect_append (expected rest : Bytes) : expect expected (expected ++ rest) = .ok rest := by
  induction expected with
  | nil => rfl
  | cons byte expected inductionHypothesis =>
      rw [List.cons_append, expect, if_pos rfl]
      exact inductionHypothesis

theorem Pieces.length_lt {input rest : Bytes} {pieces : List Piece}
    (spelled : Pieces input pieces rest) : rest.length < input.length := by
  induction spelled with
  | closed rest => exact Nat.lt_succ_self _
  | plain _ _ shorter => exact Nat.lt_succ_of_lt shorter
  | short _ _ shorter => exact Nat.lt_succ_of_lt (Nat.lt_succ_of_lt shorter)
  | unit spelled _ shorter =>
      have units := spelled.length
      simp only [List.length_cons]
      omega

/-! ## Passing over a string -/

/-- By induction on the fuel, of which every piece takes one. -/
theorem skipQuoted_of_pieces {fuel : Nat} {input rest : Bytes} {pieces : List Piece}
    (spelled : Pieces input pieces rest) (enough : input.length < fuel) :
    skipQuoted fuel input = .ok rest := by
  induction spelled generalizing fuel with
  | closed rest =>
      obtain ⟨left, rfl⟩ : ∃ left, fuel = left + 1 := ⟨fuel - 1, by omega⟩
      exact if_pos rfl
  | @plain byte input rest pieces isPlain onward inductionHypothesis =>
      obtain ⟨noQuote, noBackslash, noControl⟩ := isPlain
      obtain ⟨left, rfl⟩ : ∃ left, fuel = left + 1 := ⟨fuel - 1, by omega⟩
      rw [List.length_cons] at enough
      rw [skipQuoted.eq_def]
      dsimp only
      rw [if_neg noQuote, if_neg noBackslash, if_neg noControl]
      exact inductionHypothesis (by omega)
  | @short letter value input rest pieces known onward inductionHypothesis =>
      obtain ⟨left, rfl⟩ : ∃ left, fuel = left + 1 := ⟨fuel - 1, by omega⟩
      simp only [List.length_cons] at enough
      have notUnit : letter ≠ letterU := by
        rintro rfl
        cases known
      rw [skipQuoted, if_neg (by decide), if_pos rfl]
      dsimp only
      rw [if_neg notUnit, if_pos (by rw [known]; rfl)]
      exact inductionHypothesis (by omega)
  | @unit unit input between rest pieces spelled onward inductionHypothesis =>
      obtain ⟨left, rfl⟩ : ∃ left, fuel = left + 1 := ⟨fuel - 1, by omega⟩
      have units := spelled.length
      simp only [List.length_cons] at enough
      rw [skipQuoted, if_neg (by decide), if_pos rfl]
      dsimp only
      rw [if_pos rfl, readUnit_eq_ok_iff.mpr spelled, ok_bind]
      exact inductionHypothesis (by omega)

theorem exists_pieces_of_skipQuoted {fuel : Nat} {input rest : Bytes}
    (skipped : skipQuoted fuel input = .ok rest) : ∃ pieces, Pieces input pieces rest := by
  induction fuel generalizing input with
  | zero => cases input <;> cases skipped
  | succ fuel inductionHypothesis =>
      cases input with
      | nil => cases skipped
      | cons byte input =>
          rw [skipQuoted.eq_def] at skipped
          dsimp only at skipped
          split at skipped
          case isTrue isQuote =>
            cases skipped
            exact ⟨[], isQuote ▸ .closed _⟩
          case isFalse noQuote =>
            split at skipped
            case isTrue isBackslash =>
              subst isBackslash
              cases input with
              | nil => cases skipped
              | cons letter input =>
                  dsimp only at skipped
                  split at skipped
                  case isTrue isUnit =>
                    subst isUnit
                    obtain ⟨⟨unit, between⟩, read, onward⟩ := bind_eq_ok_iff.mp skipped
                    obtain ⟨pieces, spelled⟩ := inductionHypothesis onward
                    exact ⟨_, .unit (readUnit_eq_ok_iff.mp read) spelled⟩
                  case isFalse =>
                    split at skipped
                    case isTrue known =>
                      obtain ⟨value, isValue⟩ := Option.isSome_iff_exists.mp known
                      obtain ⟨pieces, spelled⟩ := inductionHypothesis skipped
                      exact ⟨_, .short isValue spelled⟩
                    case isFalse => cases skipped
            case isFalse noBackslash =>
              split at skipped
              case isTrue => cases skipped
              case isFalse noControl =>
                obtain ⟨pieces, spelled⟩ := inductionHypothesis skipped
                exact ⟨_, .plain ⟨noQuote, noBackslash, noControl⟩ spelled⟩

/-! ## Reading a string -/

theorem readEscape_whole {input rest : Bytes} {unit : Nat} (spelled : UnitText input unit rest)
    (isWhole : IsWholeUnit unit) :
    readEscape (letterU :: input) = .ok (String.utf8EncodeChar (Char.ofNat unit), rest) := by
  have character : readUnicodeEscape input = .ok (Char.ofNat unit, rest) := by
    rw [readUnicodeEscape, readUnit_eq_ok_iff.mpr spelled, ok_bind]
    dsimp only
    rw [if_neg (by simp; omega), if_pos (by simp; omega)]
  rw [readEscape, if_pos rfl, character]
  rfl

theorem readEscape_surrogates {input between rest : Bytes} {leading trailing : Nat}
    (first : UnitText input leading (backslash :: letterU :: between))
    (second : UnitText between trailing rest) (isPair : IsPair leading trailing) :
    readEscape (letterU :: input) =
      .ok (String.utf8EncodeChar (pairChar leading trailing), rest) := by
  obtain ⟨isLeading, isTrailing⟩ := isPair
  have opened : expect [backslash, letterU] (backslash :: letterU :: between) = .ok between := rfl
  have character : readUnicodeEscape input = .ok (pairChar leading trailing, rest) := by
    rw [readUnicodeEscape, readUnit_eq_ok_iff.mpr first, ok_bind]
    dsimp only
    rw [if_neg (by simp; omega), if_neg (by simp; omega), opened, ok_bind,
      readUnit_eq_ok_iff.mpr second, ok_bind]
    dsimp only
    rw [if_neg (by simp; omega)]
    rfl
  rw [readEscape, if_pos rfl, character]
  rfl

/-- Behind an escape the content is read on. -/
theorem readContent_onward {fuel : Nat} {input start between others rest : Bytes}
    (escaped : readEscape input = .ok (start, between))
    (onward : readContent fuel between = .ok (others, rest)) :
    readContent (fuel + 1) (backslash :: input) = .ok (start ++ others, rest) := by
  rw [readContent, if_neg (by decide), if_pos rfl, escaped, ok_bind]
  dsimp only
  rw [onward]
  rfl

/-- By induction on the fuel, of which every octet and every escape takes one. A pair is two
pieces. -/
theorem readContent_of_pieces {fuel : Nat} {input rest octets : Bytes} {pieces : List Piece}
    (spelled : Pieces input pieces rest) (amounts : octets? pieces = some octets)
    (enough : input.length < fuel) : readContent fuel input = .ok (octets, rest) := by
  induction fuel generalizing input pieces octets with
  | zero => exact absurd enough (Nat.not_lt_zero _)
  | succ fuel inductionHypothesis =>
      cases spelled with
      | closed =>
          cases amounts
          exact if_pos rfl
      | @plain byte input _ pieces isPlain onward =>
          obtain ⟨noQuote, noBackslash, noControl⟩ := isPlain
          obtain ⟨others, amountsOthers, rfl⟩ := Option.map_eq_some_iff.mp amounts
          rw [List.length_cons] at enough
          rw [readContent, if_neg noQuote, if_neg noBackslash, if_neg noControl,
            inductionHypothesis onward amountsOthers (by omega)]
          rfl
      | @short letter value input _ pieces known onward =>
          obtain ⟨others, amountsOthers, rfl⟩ := Option.map_eq_some_iff.mp amounts
          have notUnit : letter ≠ letterU := by
            rintro rfl
            cases known
          simp only [List.length_cons] at enough
          have escaped : readEscape (letter :: input) = .ok ([value], input) := by
            rw [readEscape, if_neg notUnit, known]
          exact readContent_onward escaped (inductionHypothesis onward amountsOthers (by omega))
      | @unit unit input between _ pieces spelled onward =>
          have units := spelled.length
          simp only [List.length_cons] at enough
          rw [octets?_unit] at amounts
          split at amounts
          case isTrue isWhole =>
            obtain ⟨others, amountsOthers, rfl⟩ := Option.map_eq_some_iff.mp amounts
            exact readContent_onward (readEscape_whole spelled isWhole)
              (inductionHypothesis onward amountsOthers (by omega))
          case isFalse =>
            cases onward with
            | @unit trailing input last _ pieces second onward =>
                dsimp only at amounts
                split at amounts
                case isTrue isPair =>
                  have moreUnits := second.length
                  obtain ⟨others, amountsOthers, rfl⟩ := Option.map_eq_some_iff.mp amounts
                  simp only [List.length_cons] at units
                  exact readContent_onward (readEscape_surrogates spelled second isPair)
                    (inductionHypothesis onward amountsOthers (by omega))
                case isFalse => cases amounts
            | closed | plain | short => cases amounts

/-- The escapes that are read, behind their backslash, with the octets that they stand for. -/
inductive EscapeText : Bytes → Bytes → Bytes → Prop where
  | short {letter value : UInt8} {rest : Bytes} (known : shortEscape? letter = some value) :
      EscapeText (letter :: rest) [value] rest
  | whole {unit : Nat} {input rest : Bytes} (spelled : UnitText input unit rest)
      (isWhole : IsWholeUnit unit) :
      EscapeText (letterU :: input) (String.utf8EncodeChar (Char.ofNat unit)) rest
  | pair {leading trailing : Nat} {input between rest : Bytes}
      (first : UnitText input leading (backslash :: letterU :: between))
      (second : UnitText between trailing rest) (isPair : IsPair leading trailing) :
      EscapeText (letterU :: input) (String.utf8EncodeChar (pairChar leading trailing)) rest

theorem escapeText_of_readEscape {input start rest : Bytes}
    (read : readEscape input = .ok (start, rest)) : EscapeText input start rest := by
  cases input with
  | nil => cases read
  | cons letter input =>
      rw [readEscape] at read
      split at read
      case isTrue isUnit =>
        subst isUnit
        obtain ⟨⟨c, after⟩, character, same⟩ := bind_eq_ok_iff.mp read
        cases same
        obtain ⟨⟨unit, between⟩, readFirst, onward⟩ := bind_eq_ok_iff.mp character
        have first := readUnit_eq_ok_iff.mp readFirst
        dsimp only at onward
        split at onward
        case isTrue => cases onward
        case isFalse noTrailing =>
          split at onward
          case isTrue isWhole =>
            cases onward
            have whole : IsWholeUnit unit := by simpa using isWhole
            exact .whole first whole
          case isFalse noWhole =>
            obtain ⟨opened, expected, onward⟩ := bind_eq_ok_iff.mp onward
            obtain ⟨⟨low, last⟩, readSecond, onward⟩ := bind_eq_ok_iff.mp onward
            have second := readUnit_eq_ok_iff.mp readSecond
            dsimp only at onward
            split at onward
            case isTrue => cases onward
            case isFalse isLow =>
              obtain ⟨rfl, rfl⟩ := Prod.mk.inj (Except.ok.inj onward)
              have isSurrogate : ¬ IsWholeUnit unit := by simpa using noWhole
              have outside : ¬ (0xDC00 ≤ unit ∧ unit ≤ 0xDFFF) := by simpa using noTrailing
              have inside : ¬ (low < 0xDC00 ∨ 0xDFFF < low) := by simpa using isLow
              have isPair : IsPair unit low := ⟨⟨by omega, by omega⟩, by omega, by omega⟩
              rw [eq_of_expect expected] at first
              exact .pair first second isPair
      case isFalse =>
        split at read
        case h_1 value known =>
          cases read
          exact .short known
        case h_2 => cases read

/-- What an escape stands for is put before what the other pieces amount to. -/
theorem EscapeText.pieces {input between rest start octets : Bytes} {others : List Piece}
    (escape : EscapeText input start between) (onward : Pieces between others rest)
    (amounts : octets? others = some octets) :
    ∃ pieces, Pieces (backslash :: input) pieces rest ∧
      octets? pieces = some (start ++ octets) := by
  cases escape with
  | short known => exact ⟨_, .short known onward, by rw [octets?, amounts]; rfl⟩
  | whole spelled isWhole =>
      refine ⟨_, .unit spelled onward, ?_⟩
      rw [octets?_unit, if_pos isWhole, amounts]
      rfl
  | @pair leading trailing _ _ _ spelled second isPair =>
      refine ⟨_, .unit spelled (.unit second onward), ?_⟩
      have isSurrogate : ¬ IsWholeUnit leading := by
        obtain ⟨isLeading, _⟩ := isPair
        omega
      rw [octets?_unit, if_neg isSurrogate]
      dsimp only
      rw [if_pos isPair, amounts]
      rfl

theorem exists_pieces_of_readContent {fuel : Nat} {input rest octets : Bytes}
    (read : readContent fuel input = .ok (octets, rest)) :
    ∃ pieces, Pieces input pieces rest ∧ octets? pieces = some octets := by
  induction fuel generalizing input octets with
  | zero => cases input <;> cases read
  | succ fuel inductionHypothesis =>
      cases input with
      | nil => cases read
      | cons byte input =>
          rw [readContent] at read
          split at read
          case isTrue isQuote =>
            cases read
            exact ⟨[], isQuote ▸ .closed _, rfl⟩
          case isFalse noQuote =>
            split at read
            case isTrue isBackslash =>
              subst isBackslash
              obtain ⟨⟨start, between⟩, escaped, onward⟩ := bind_eq_ok_iff.mp read
              obtain ⟨⟨content, last⟩, readOthers, same⟩ := bind_eq_ok_iff.mp onward
              cases same
              obtain ⟨others, spelled, amounts⟩ := inductionHypothesis readOthers
              exact (escapeText_of_readEscape escaped).pieces spelled amounts
            case isFalse noBackslash =>
              split at read
              case isTrue => cases read
              case isFalse noControl =>
                obtain ⟨⟨content, last⟩, readOthers, same⟩ := bind_eq_ok_iff.mp read
                cases same
                obtain ⟨others, spelled, amounts⟩ := inductionHypothesis readOthers
                exact ⟨_, .plain ⟨noQuote, noBackslash, noControl⟩ spelled,
                  by simp [octets?, amounts]⟩

/-- What is read behind an opening quote is the text of the string that stands there. -/
theorem readQuoted_eq_ok_iff {input rest : Bytes} {text : String} :
    readQuoted input = .ok (text, rest) ↔
      ∃ pieces, Pieces input pieces rest ∧ textOf? pieces = some text := by
  constructor
  · intro read
    obtain ⟨⟨octets, between⟩, content, onward⟩ := bind_eq_ok_iff.mp read
    dsimp only at onward
    split at onward
    case h_1 found isText =>
      cases onward
      obtain ⟨pieces, spelled, amounts⟩ := exists_pieces_of_readContent content
      exact ⟨pieces, spelled, by rw [textOf?, amounts]; exact isText⟩
    case h_2 => cases onward
  · rintro ⟨pieces, spelled, isText⟩
    obtain ⟨octets, amounts, valid⟩ := Option.bind_eq_some_iff.mp isText
    rw [readQuoted, readContent_of_pieces spelled amounts (Nat.lt_succ_self _), ok_bind]
    dsimp only
    rw [valid]

end PromptRelay.Json
