import PromptRelay.Json.Record
import PromptRelay.Json.Value
import PromptRelay.Proofs.Result

/-!
Contract: quoted strings are read as what they spell.

Owns:
- the texts that spell a character within quotes, which are itself and its escapes, and
  those that spell a string;
- what it means that a reader takes back a written text, whatever comes after it;
- that the reader of strings takes every spelling of a string as that string, and with
  that the one which is written.

Does not own: lists and records.

The texts are characters and the reader works on bytes, so that a character is
followed through both: it is spelled by itself, in which case none of its bytes is
taken for a quote, a backslash or a control character, or by an escape.
-/

namespace PromptRelay.Json

open Text (Bytes utf8 utf8_cons utf8_append)

/-! ## Spellings -/

def lowerDigits : List Char :=
  ['0', '1', '2', '3', '4', '5', '6', '7', '8', '9', 'a', 'b', 'c', 'd', 'e', 'f']

def upperDigits : List Char :=
  ['0', '1', '2', '3', '4', '5', '6', '7', '8', '9', 'A', 'B', 'C', 'D', 'E', 'F']

/-- A digit in base sixteen, in either case. -/
def IsHexDigit (c : Char) (value : Nat) : Prop :=
  lowerDigits[value]? = some c ∨ upperDigits[value]? = some c

/-- Four digits, and the unit of sixteen bits that they spell. -/
inductive SpellsUnit : List Char → Nat → Prop where
  | digits {a b c d : Char} {first second third fourth : Nat} (isFirst : IsHexDigit a first)
      (isSecond : IsHexDigit b second) (isThird : IsHexDigit c third)
      (isFourth : IsHexDigit d fourth) :
      SpellsUnit [a, b, c, d] (((first * 16 + second) * 16 + third) * 16 + fourth)

/-- The escapes of one letter. -/
def shortEscapes : List (Char × Char) :=
  [('"', '"'), ('\\', '\\'), ('/', '/'), ('b', '\x08'), ('f', '\x0c'), ('n', '\n'),
    ('r', '\r'), ('t', '\t')]

/-- The texts that spell a character within quotes. A character that takes two units of
sixteen bits is escaped as both halves of the pair, the leading one first. -/
inductive SpellsChar : List Char → Char → Prop where
  | plain {c : Char} (noQuote : c ≠ '"') (noBackslash : c ≠ '\\') (noControl : 0x20 ≤ c.toNat) :
      SpellsChar [c] c
  | short {letter c : Char} (known : (letter, c) ∈ shortEscapes) : SpellsChar ['\\', letter] c
  | unit {digits : List Char} {unit : Nat} (spelled : SpellsUnit digits unit)
      (isWhole : unit < 0xD800 ∨ 0xDFFF < unit) :
      SpellsChar ('\\' :: 'u' :: digits) (Char.ofNat unit)
  | pair {digits others : List Char} {leading trailing : Nat} (first : SpellsUnit digits leading)
      (second : SpellsUnit others trailing) (isLeading : 0xD800 ≤ leading ∧ leading ≤ 0xDBFF)
      (isTrailing : 0xDC00 ≤ trailing ∧ trailing ≤ 0xDFFF) :
      SpellsChar ('\\' :: 'u' :: (digits ++ '\\' :: 'u' :: others))
        (Char.ofNat (0x10000 + (leading - 0xD800) * 0x400 + (trailing - 0xDC00)))

/-- The texts that spell characters one after the other. -/
inductive SpellsChars : List Char → List Char → Prop where
  | nil : SpellsChars [] []
  | cons {text others cs : List Char} {c : Char} (first : SpellsChar text c)
      (onward : SpellsChars others cs) : SpellsChars (text ++ others) (c :: cs)

/-- The texts that spell a string, with their quotes. -/
inductive SpellsString : List Char → String → Prop where
  | quoted {text : List Char} {s : String} (spelled : SpellsChars text s.toList) :
      SpellsString ('"' :: (text ++ ['"'])) s

/-! ## Reading back -/

/-- The reader takes the value off the front of what was written for it. -/
def Reads (read : Reader α) (written : List Char) (value : α) : Prop :=
  ∀ rest, read (utf8 written ++ rest) = .ok (value, rest)

/-- A byte that stands for itself inside of a quoted string. -/
def IsPlain (byte : UInt8) : Prop :=
  byte ≠ quote ∧ byte ≠ backslash ∧ ¬ byte < 0x20

/-! ## Characters that are written as themselves -/

theorem isPlain_ofNat {n : Nat} (above : 0x20 ≤ n) (small : n < 256) (noQuote : n ≠ 0x22)
    (noBackslash : n ≠ 0x5C) : IsPlain (UInt8.ofNat n) := by
  have toNat : (UInt8.ofNat n).toNat = n := by
    rw [UInt8.toNat_ofNat', Nat.mod_eq_of_lt small]
  refine ⟨fun same => ?_, fun same => ?_, fun below => ?_⟩
  · have value := congrArg UInt8.toNat same
    rw [toNat] at value
    exact noQuote value
  · have value := congrArg UInt8.toNat same
    rw [toNat] at value
    exact noBackslash value
  · have value := UInt8.lt_iff_toNat_lt.mp below
    rw [toNat] at value
    exact absurd value (Nat.not_lt.mpr above)

/-- Only a character of one byte could be taken for a mark. -/
theorem isPlain_of_mem_utf8EncodeChar {c : Char} (noQuote : c ≠ '"') (noBackslash : c ≠ '\\')
    (noControl : 0x20 ≤ c.toNat) : ∀ byte ∈ String.utf8EncodeChar c, IsPlain byte := by
  have valueNe : ∀ other : Char, c ≠ other → c.toNat ≠ other.toNat := by
    intro other different same
    exact different (Char.toNat_inj.mp same)
  have notQuote := valueNe '"' noQuote
  have notBackslash := valueNe '\\' noBackslash
  change c.toNat ≠ 0x22 at notQuote
  change c.toNat ≠ 0x5C at notBackslash
  unfold String.utf8EncodeChar
  change ∀ byte ∈ (if c.toNat ≤ 0x7f then _ else _), IsPlain byte
  split
  case isTrue one =>
    intro byte member
    rw [List.mem_singleton.mp member]
    exact isPlain_ofNat noControl (Nat.lt_of_le_of_lt one (by decide)) notQuote notBackslash
  case isFalse several =>
    -- A byte of a longer sequence is at least 0x80.
    have high : ∀ n, 0x80 ≤ n → n < 256 → IsPlain (UInt8.ofNat n) := by
      intro n above small
      exact isPlain_ofNat (by omega) small (by omega) (by omega)
    split
    · intro byte member
      simp only [List.mem_cons, List.not_mem_nil, or_false] at member
      rcases member with rfl | rfl <;> exact high _ (by omega) (by omega)
    · split
      · intro byte member
        simp only [List.mem_cons, List.not_mem_nil, or_false] at member
        rcases member with rfl | rfl | rfl <;> exact high _ (by omega) (by omega)
      · intro byte member
        simp only [List.mem_cons, List.not_mem_nil, or_false] at member
        rcases member with rfl | rfl | rfl | rfl <;> exact high _ (by omega) (by omega)

/-- Puts bytes before the content that is read. -/
def withContent (start : Bytes) : Bytes × Bytes → Bytes × Bytes
  | (content, rest) => (start ++ content, rest)

theorem readContent_plain (start input : Bytes) (fuel : Nat)
    (plain : ∀ byte ∈ start, IsPlain byte) :
    readContent (fuel + start.length) (start ++ input) =
      (readContent fuel input).map (withContent start) := by
  induction start with
  | nil =>
      change readContent fuel input = _
      cases readContent fuel input <;> rfl
  | cons byte start inductionHypothesis =>
      obtain ⟨noQuote, noBackslash, noControl⟩ := plain byte (by simp)
      have onward := inductionHypothesis fun other member => plain other (by simp [member])
      rw [List.length_cons, ← Nat.add_assoc, List.cons_append, readContent, if_neg noQuote,
        if_neg noBackslash, if_neg noControl, onward]
      cases readContent fuel input <;> rfl

/-! ## Escapes -/

theorem readContent_escaped {letters start : Bytes} {input : Bytes} (fuel : Nat)
    (escaped : readEscape (letters ++ input) = .ok (start, input)) :
    readContent (fuel + 1) (backslash :: (letters ++ input)) =
      (readContent fuel input).map (withContent start) := by
  rw [readContent, if_neg (by decide), if_pos rfl, escaped]
  change (readContent fuel input >>= _) = _
  cases readContent fuel input <;> rfl

/-- A digit is one byte, which is read as its value. -/
theorem exists_utf8_hexDigit {c : Char} {value : Nat} (isDigit : IsHexDigit c value) :
    ∃ byte, String.utf8EncodeChar c = [byte] ∧ hexValue? byte = some value := by
  have all : ∀ digits ∈ [lowerDigits, upperDigits], ∀ place : Fin 16,
      let digit := digits[place.val]?.getD '0'
      String.utf8EncodeChar digit = [UInt8.ofNat digit.toNat] ∧
        hexValue? (UInt8.ofNat digit.toNat) = some place.val := by
    decide
  rcases isDigit with lower | upper
  · obtain ⟨small, _⟩ := List.getElem?_eq_some_iff.mp lower
    have found := all lowerDigits (by simp) ⟨value, small⟩
    dsimp only at found
    rw [lower] at found
    exact ⟨_, found⟩
  · obtain ⟨small, _⟩ := List.getElem?_eq_some_iff.mp upper
    have found := all upperDigits (by simp) ⟨value, small⟩
    dsimp only at found
    rw [upper] at found
    exact ⟨_, found⟩

theorem readUnit_spelled {digits : List Char} {unit : Nat} (spelled : SpellsUnit digits unit)
    (input : Bytes) : readUnit (utf8 digits ++ input) = .ok (unit, input) := by
  cases spelled with
  | digits isFirst isSecond isThird isFourth =>
      obtain ⟨first, firstWritten, firstValue⟩ := exists_utf8_hexDigit isFirst
      obtain ⟨second, secondWritten, secondValue⟩ := exists_utf8_hexDigit isSecond
      obtain ⟨third, thirdWritten, thirdValue⟩ := exists_utf8_hexDigit isThird
      obtain ⟨fourth, fourthWritten, fourthValue⟩ := exists_utf8_hexDigit isFourth
      simp only [utf8_cons, Text.utf8_nil, firstWritten, secondWritten, thirdWritten,
        fourthWritten, List.cons_append, List.nil_append, readUnit, firstValue, secondValue,
        thirdValue, fourthValue]

theorem readEscape_unit {digits : List Char} {unit : Nat} (spelled : SpellsUnit digits unit)
    (isWhole : unit < 0xD800 ∨ 0xDFFF < unit) (input : Bytes) :
    readEscape (utf8 ('u' :: digits) ++ input) =
      .ok (String.utf8EncodeChar (Char.ofNat unit), input) := by
  have character : readUnicodeEscape (utf8 digits ++ input) = .ok (Char.ofNat unit, input) := by
    rw [readUnicodeEscape, readUnit_spelled spelled, Result.ok_bind]
    dsimp only
    rw [if_neg (by simp; omega), if_pos (by simp; omega)]
  show readEscape (letterU :: (utf8 digits ++ input)) = _
  rw [readEscape, if_pos rfl, character]
  rfl

theorem readEscape_pair {digits others : List Char} {leading trailing : Nat}
    (first : SpellsUnit digits leading) (second : SpellsUnit others trailing)
    (isLeading : 0xD800 ≤ leading ∧ leading ≤ 0xDBFF)
    (isTrailing : 0xDC00 ≤ trailing ∧ trailing ≤ 0xDFFF) (input : Bytes) :
    readEscape (utf8 ('u' :: (digits ++ '\\' :: 'u' :: others)) ++ input) =
      .ok (String.utf8EncodeChar (Char.ofNat
        (0x10000 + (leading - 0xD800) * 0x400 + (trailing - 0xDC00))), input) := by
  have parted : utf8 (digits ++ '\\' :: 'u' :: others) ++ input =
      utf8 digits ++ ([backslash, letterU] ++ (utf8 others ++ input)) := by
    rw [utf8_append, List.append_assoc]
    rfl
  have between : expect [backslash, letterU] ([backslash, letterU] ++ (utf8 others ++ input)) =
      .ok (utf8 others ++ input) := rfl
  have character : readUnicodeEscape (utf8 (digits ++ '\\' :: 'u' :: others) ++ input) =
      .ok (Char.ofNat (0x10000 + (leading - 0xD800) * 0x400 + (trailing - 0xDC00)), input) := by
    rw [parted, readUnicodeEscape, readUnit_spelled first, Result.ok_bind]
    dsimp only
    rw [if_neg (by simp; omega), if_neg (by simp; omega), between, Result.ok_bind,
      readUnit_spelled second, Result.ok_bind]
    dsimp only
    rw [if_neg (by simp; omega)]
  show readEscape (letterU :: (utf8 (digits ++ '\\' :: 'u' :: others) ++ input)) = _
  rw [readEscape, if_pos rfl, character]
  rfl

/-! ## Strings -/

/-- A reader of content gets by what is written for a character, with as much fuel as
it had bytes. -/
def GetsBy (written : Bytes) (c : Char) : Prop :=
  ∀ input fuel, written.length ≤ fuel →
    ∃ left, fuel ≤ left + written.length ∧
      readContent fuel (written ++ input) =
        (readContent left input).map (withContent (String.utf8EncodeChar c))

theorem getsBy_of_readEscape {letters : Bytes} {c : Char}
    (escaped : ∀ input, readEscape (letters ++ input) = .ok (String.utf8EncodeChar c, input)) :
    GetsBy (backslash :: letters) c := by
  intro input fuel enough
  rw [List.length_cons] at enough
  obtain ⟨left, rfl⟩ : ∃ left, fuel = left + 1 := ⟨fuel - 1, by omega⟩
  refine ⟨left, ?_, readContent_escaped left (escaped input)⟩
  rw [List.length_cons]
  omega

/-- Whichever text spells a character, the reader gets by it. -/
theorem getsBy_spelled {text : List Char} {c : Char} (spelled : SpellsChar text c) :
    GetsBy (utf8 text) c := by
  cases spelled with
  | plain noQuote noBackslash noControl =>
      have plain := isPlain_of_mem_utf8EncodeChar noQuote noBackslash noControl
      have written : utf8 [c] = String.utf8EncodeChar c := List.append_nil _
      rw [written]
      intro input fuel enough
      obtain ⟨left, rfl⟩ : ∃ left, fuel = left + (String.utf8EncodeChar c).length :=
        ⟨fuel - (String.utf8EncodeChar c).length, by omega⟩
      exact ⟨left, Nat.le_refl _, readContent_plain _ input left plain⟩
  | short known =>
      simp only [shortEscapes, List.mem_cons, List.not_mem_nil, or_false, Prod.mk.injEq] at known
      -- Each of the eight letters is read as its byte.
      rcases known with ⟨rfl, rfl⟩ | ⟨rfl, rfl⟩ | ⟨rfl, rfl⟩ | ⟨rfl, rfl⟩ | ⟨rfl, rfl⟩ |
        ⟨rfl, rfl⟩ | ⟨rfl, rfl⟩ | ⟨rfl, rfl⟩ <;> exact getsBy_of_readEscape fun _ => rfl
  | unit spelled isWhole => exact getsBy_of_readEscape (readEscape_unit spelled isWhole)
  | pair first second isLeading isTrailing =>
      exact getsBy_of_readEscape (readEscape_pair first second isLeading isTrailing)

theorem readContent_spelled {text cs : List Char} (spelled : SpellsChars text cs) (rest : Bytes)
    (fuel : Nat) (enough : (utf8 text).length < fuel) :
    readContent fuel (utf8 text ++ quote :: rest) = .ok (utf8 cs, rest) := by
  induction spelled generalizing fuel with
  | nil =>
      obtain ⟨left, rfl⟩ : ∃ left, fuel = left + 1 := ⟨fuel - 1, by omega⟩
      exact if_pos rfl
  | @cons text others cs c first onward inductionHypothesis =>
      rw [utf8_append, List.length_append] at enough
      obtain ⟨left, room, gotBy⟩ := getsBy_spelled first (utf8 others ++ quote :: rest) fuel
        (by omega)
      rw [utf8_append, List.append_assoc, gotBy, inductionHypothesis left (by omega)]
      rfl

theorem readQuoted_spelled {text : List Char} {s : String} (spelled : SpellsChars text s.toList)
    (rest : Bytes) : readQuoted (utf8 (text ++ ['"']) ++ rest) = .ok (s, rest) := by
  have written : utf8 (text ++ ['"']) ++ rest = utf8 text ++ quote :: rest := by
    rw [utf8_append, List.append_assoc]
    rfl
  rw [written, readQuoted, readContent_spelled spelled, ← Text.bytes_eq_utf8]
  · rw [Result.ok_bind]
    dsimp only
    rw [Text.ofBytes?_bytes]
  · rw [List.length_append]
    omega

/-- However a string is spelled, it is read as the string. -/
theorem readString_spelled {text : List Char} {s : String} (spelled : SpellsString text s) :
    Reads readString text s := by
  cases spelled with
  | quoted spelled =>
      intro rest
      exact readQuoted_spelled spelled rest

/-! ## Written strings -/

theorem isHexDigit_hexDigit {n : Nat} (small : n < 16) : IsHexDigit (hexDigit n) n := by
  have all : ∀ place : Fin 16, lowerDigits[place.val]? = some (hexDigit place.val) := by
    decide
  exact .inl (all ⟨n, small⟩)

/-- What is written for a character is one of its spellings. -/
theorem spellsChar_escape (c : Char) : SpellsChar (escape c) c := by
  unfold escape
  -- Seven characters have an escape of one letter.
  iterate 7
    split
    case isTrue same => subst same; exact .short (by decide)
  split
  case isTrue control =>
    have isZero : IsHexDigit '0' 0 := .inl rfl
    have isHigh := isHexDigit_hexDigit (show c.toNat / 16 < 16 by omega)
    have isLow := isHexDigit_hexDigit (show c.toNat % 16 < 16 by omega)
    have spelled := SpellsUnit.digits isZero isZero isHigh isLow
    have value : ((0 * 16 + 0) * 16 + c.toNat / 16) * 16 + c.toNat % 16 = c.toNat := by omega
    rw [value] at spelled
    have escaped := SpellsChar.unit spelled (.inl (by omega))
    rwa [Char.ofNat_toNat] at escaped
  case isFalse noQuote noBackslash _ _ _ _ _ noControl =>
    exact .plain noQuote noBackslash (Nat.not_lt.mp noControl)

theorem spellsChars_escape (cs : List Char) : SpellsChars (cs.flatMap escape) cs := by
  induction cs with
  | nil => exact .nil
  | cons c cs inductionHypothesis =>
      rw [List.flatMap_cons]
      exact .cons (spellsChar_escape c) inductionHypothesis

theorem spellsString_quoted (s : String) : SpellsString (quoted s) s :=
  .quoted (spellsChars_escape s.toList)

theorem readQuoted_escaped (s : String) (rest : Bytes) :
    readQuoted (utf8 (s.toList.flatMap escape ++ ['"']) ++ rest) = .ok (s, rest) :=
  readQuoted_spelled (spellsChars_escape s.toList) rest

/-- A quoted string is read as the string, whichever characters it has. -/
theorem readString_reads (s : String) : Reads readString (quoted s) s :=
  readString_spelled (spellsString_quoted s)

end PromptRelay.Json
