import Mathlib.Data.List.TakeWhile
import PromptRelay.Json.Reader
import PromptRelay.Proofs.Result

/-!
Contract: a number is read up to where it ends.

Owns:
- the grammar of numbers;
- what may follow on a number for it to end there;
- that the reader of numbers stops behind the last character of a number;
- that what the reader of numbers takes is a number.

Does not own: the value of a number, and how large it may be.

A number has no closing mark, so that each of its parts is read up to a byte it does not go
on with. That byte is the first one of the next part which is there, or else of what follows.
-/

namespace PromptRelay.Json

open Text (Bytes utf8 utf8_cons utf8_append)
open Result (ok_bind bind_eq_ok_iff)

/-! ## Grammar -/

def decimalDigits : List Char :=
  ['0', '1', '2', '3', '4', '5', '6', '7', '8', '9']

def IsDigits (text : List Char) : Prop :=
  text ≠ [] ∧ ∀ c ∈ text, c ∈ decimalDigits

inductive IsWhole : List Char → Prop where
  | zero : IsWhole ['0']
  | digits {first : Char} {others : List Char} (isPositive : first ≠ '0')
      (digits : IsDigits (first :: others)) : IsWhole (first :: others)

inductive IsFraction : List Char → Prop where
  | none : IsFraction []
  | some {text : List Char} (digits : IsDigits text) : IsFraction ('.' :: text)

inductive IsExponent : List Char → Prop where
  | none : IsExponent []
  | some {letter : Char} {sign text : List Char} (isLetter : letter = 'e' ∨ letter = 'E')
      (isSign : sign = [] ∨ sign = ['+'] ∨ sign = ['-']) (digits : IsDigits text) :
      IsExponent (letter :: (sign ++ text))

inductive IsNumber : List Char → Prop where
  | parts {sign whole fraction exponent : List Char} (isSign : sign = [] ∨ sign = ['-'])
      (isWhole : IsWhole whole) (isFraction : IsFraction fraction)
      (isExponent : IsExponent exponent) :
      IsNumber (sign ++ (whole ++ (fraction ++ exponent)))

/-- Digits do not go on. -/
def NoDigit (rest : Bytes) : Prop :=
  ∀ byte ∈ rest.head?, isDigitByte byte = false

/-- A number does not go on. -/
def Ends (rest : Bytes) : Prop :=
  ∀ byte ∈ rest.head?, isDigitByte byte = false ∧ byte ≠ point ∧ byte ≠ letterE ∧ byte ≠ 0x45

theorem Ends.noDigit {rest : Bytes} (ends : Ends rest) : NoDigit rest :=
  fun byte isFirst => (ends byte isFirst).1

/-! ## Parts -/

/-- The digits before the point, as `readNumeral` reads them. -/
def wholePart (atEnd : Fault) (input : Bytes) : Except Fault (Bytes × Bytes) :=
  match input with
  | [] => .error atEnd
  | byte :: rest =>
    if byte = zero then
      match rest with
      | next :: _ => if isDigitByte next then .error .malformed else .ok ([byte], rest)
      | [] => .ok ([byte], rest)
    else if isDigitByte byte then
      .ok (input.takeWhile isDigitByte, input.dropWhile isDigitByte)
    else
      .error .malformed

/-- The point and the digits behind it. -/
def fractionPart (atEnd : Fault) (input : Bytes) : Except Fault (Bytes × Bytes) :=
  match input with
  | byte :: digits =>
    if byte = point then
      match digits with
      | [] => .error atEnd
      | next :: _ =>
        if isDigitByte next then
          .ok (digits.takeWhile isDigitByte, digits.dropWhile isDigitByte)
        else
          .error .malformed
    else
      .ok ([], input)
  | [] => .ok ([], [])

/-- The exponent with its letter. -/
def exponentPart (atEnd : Fault) (whole fraction : Bytes) (input : Bytes) :
    Except Fault (Numeral × Bytes) :=
  match input with
  | letter :: rest =>
    if letter = letterE || letter = 0x45 then do
      let (negative, exponent, rest) ← readExponent atEnd rest
      .ok (⟨whole, fraction, negative, exponent⟩, rest)
    else
      .ok (⟨whole, fraction, false, []⟩, input)
  | [] => .ok (⟨whole, fraction, false, []⟩, input)

theorem readNumeral_eq (atEnd : Fault) (input : Bytes) :
    readNumeral atEnd input = (do
      let (whole, rest) ← wholePart atEnd input
      let (fraction, rest) ← fractionPart atEnd rest
      exponentPart atEnd whole fraction rest) := by
  unfold readNumeral wholePart
  rcases input with _ | ⟨byte, rest⟩
  · rfl
  · dsimp only
    split
    · rcases rest with _ | ⟨next, rest⟩
      · rfl
      · dsimp only
        split
        · rfl
        · simp only [ok_bind, fractionPart]
          split
          · rcases rest with _ | ⟨digit, rest⟩
            · rfl
            · dsimp only
              split <;> rfl
          · rfl
    · split
      · generalize (byte :: rest).dropWhile isDigitByte = behind
        simp only [ok_bind, fractionPart]
        rcases behind with _ | ⟨next, rest⟩
        · rfl
        · dsimp only
          split
          · rcases rest with _ | ⟨digit, rest⟩
            · rfl
            · dsimp only
              split <;> rfl
          · rfl
      · rfl

/-! ## Digits -/

theorem exists_utf8_decimalDigit {c : Char} (isDigit : c ∈ decimalDigits) :
    ∃ byte, String.utf8EncodeChar c = [byte] ∧ isDigitByte byte = true ∧
      (byte = zero → c = '0') := by
  simp only [decimalDigits, List.mem_cons, List.not_mem_nil, or_false] at isDigit
  rcases isDigit with rfl | rfl | rfl | rfl | rfl | rfl | rfl | rfl | rfl | rfl <;>
    exact ⟨_, rfl, rfl, by decide⟩

theorem ne_of_isDigitByte {byte mark : UInt8} (isDigit : isDigitByte byte = true)
    (noDigit : isDigitByte mark = false) : byte ≠ mark := by
  rintro rfl
  rw [noDigit] at isDigit
  cases isDigit

theorem isSpace_of_isDigitByte {byte : UInt8} (isDigit : isDigitByte byte = true) :
    isSpace byte = false := by
  have other {mark : UInt8} (noDigit : isDigitByte mark = false) : byte ≠ mark :=
    ne_of_isDigitByte isDigit noDigit
  simp only [isSpace, beq_eq_false_iff_ne, Bool.or_eq_false_iff]
  exact ⟨⟨⟨other rfl, other rfl⟩, other rfl⟩, other rfl⟩

theorem isDigitByte_of_mem {text : List Char} (digits : ∀ c ∈ text, c ∈ decimalDigits) :
    ∀ byte ∈ utf8 text, isDigitByte byte = true := by
  intro byte member
  obtain ⟨c, inText, inChar⟩ := List.mem_flatMap.mp member
  obtain ⟨digit, written, isDigit, _⟩ := exists_utf8_decimalDigit (digits c inText)
  rw [written, List.mem_singleton] at inChar
  rw [inChar]
  exact isDigit

theorem dropWhile_digits {text : List Char} (digits : ∀ c ∈ text, c ∈ decimalDigits)
    {rest : Bytes} (stops : NoDigit rest) :
    (utf8 text ++ rest).dropWhile isDigitByte = rest := by
  rw [List.dropWhile_append_of_pos (isDigitByte_of_mem digits)]
  cases rest with
  | nil => rfl
  | cons byte rest =>
      have noDigit := stops byte rfl
      exact List.dropWhile_cons_of_neg (by rw [noDigit]; decide)

/-- Digits begin with a digit, and are dropped up to their end. -/
theorem IsDigits.bytes {text : List Char} (digits : IsDigits text) {rest : Bytes}
    (stops : NoDigit rest) :
    ∃ byte others, utf8 text ++ rest = byte :: others ∧ isDigitByte byte = true ∧
      (byte :: others).dropWhile isDigitByte = rest := by
  obtain ⟨isNonempty, all⟩ := digits
  have dropped := dropWhile_digits all stops
  cases text with
  | nil => exact absurd rfl isNonempty
  | cons c text =>
      obtain ⟨byte, written, isDigit, _⟩ := exists_utf8_decimalDigit (all c (by simp))
      have bytes : utf8 (c :: text) ++ rest = byte :: (utf8 text ++ rest) := by
        rw [utf8_cons, written]
        rfl
      rw [bytes] at dropped
      exact ⟨byte, _, bytes, isDigit, dropped⟩

/-! ## Reading -/

theorem wholePart_whole (atEnd : Fault) {text : List Char} (isWhole : IsWhole text) {rest : Bytes}
    (stops : NoDigit rest) :
    ∃ whole, wholePart atEnd (utf8 text ++ rest) = .ok (whole, rest) := by
  cases isWhole with
  | zero =>
      refine ⟨[zero], ?_⟩
      cases rest with
      | nil => rfl
      | cons next rest =>
          have noDigit : ¬ isDigitByte next = true := by
            rw [stops next rfl]
            decide
          show (if isDigitByte next = true then _ else _) = _
          rw [if_neg noDigit]
          rfl
  | @digits first others isPositive digits =>
      obtain ⟨byte, written, isDigit, isZero⟩ := exists_utf8_decimalDigit (digits.2 first (by simp))
      have bytes : utf8 (first :: others) ++ rest = byte :: (utf8 others ++ rest) := by
        rw [utf8_cons, written]
        rfl
      have dropped := dropWhile_digits digits.2 stops
      have notZero : byte ≠ zero := fun same => isPositive (isZero same)
      rw [bytes] at dropped ⊢
      refine ⟨(byte :: (utf8 others ++ rest)).takeWhile isDigitByte, ?_⟩
      simp only [wholePart, if_neg notZero, if_pos isDigit, dropped]

theorem fractionPart_fraction (atEnd : Fault) {text : List Char} (isFraction : IsFraction text)
    {rest : Bytes} (stops : NoDigit rest) (noPoint : point ∉ rest.head?) :
    ∃ fraction, fractionPart atEnd (utf8 text ++ rest) = .ok (fraction, rest) := by
  cases isFraction with
  | none =>
      refine ⟨[], ?_⟩
      cases rest with
      | nil => rfl
      | cons byte rest =>
          have other : byte ≠ point := fun same => noPoint (by rw [same]; rfl)
          exact if_neg other
  | @some text digits =>
      obtain ⟨digit, others, bytes, isDigit, dropped⟩ := digits.bytes stops
      have opened : utf8 ('.' :: text) ++ rest = point :: digit :: others := by
        rw [← bytes]
        rfl
      refine ⟨(digit :: others).takeWhile isDigitByte, ?_⟩
      rw [opened, fractionPart, if_pos rfl, if_pos isDigit, dropped]

theorem readExponent_digits (atEnd : Fault) {sign text : List Char}
    (isSign : sign = [] ∨ sign = ['+'] ∨ sign = ['-']) (digits : IsDigits text) {rest : Bytes}
    (stops : NoDigit rest) :
    ∃ negative exponent, readExponent atEnd (utf8 (sign ++ text) ++ rest) =
      .ok (negative, exponent, rest) := by
  obtain ⟨digit, others, bytes, isDigit, dropped⟩ := digits.bytes stops
  have signed : utf8 (sign ++ text) ++ rest = utf8 sign ++ digit :: others := by
    rw [utf8_append, List.append_assoc, bytes]
  rw [signed]
  rcases isSign with rfl | rfl | rfl
  · have noPlus : digit ≠ plus := ne_of_isDigitByte isDigit rfl
    have noMinus : digit ≠ minus := ne_of_isDigitByte isDigit rfl
    refine ⟨false, (digit :: others).takeWhile isDigitByte, ?_⟩
    simp only [Text.utf8_nil, List.nil_append, readExponent, if_neg noPlus, if_neg noMinus,
      if_pos isDigit, dropped]
  all_goals
    have found (negative : Bool) :
        (if isDigitByte digit = true then
          .ok (negative, (digit :: others).takeWhile isDigitByte,
            (digit :: others).dropWhile isDigitByte)
        else Except.error Fault.malformed) =
          .ok (negative, (digit :: others).takeWhile isDigitByte, rest) := by
      rw [if_pos isDigit, dropped]
  · exact ⟨false, _, found false⟩
  · exact ⟨true, _, found true⟩

theorem exponentPart_exponent (atEnd : Fault) (whole fraction : Bytes) {text : List Char}
    (isExponent : IsExponent text) {rest : Bytes} (ends : Ends rest) :
    ∃ numeral, exponentPart atEnd whole fraction (utf8 text ++ rest) = .ok (numeral, rest) := by
  cases isExponent with
  | none =>
      refine ⟨⟨whole, fraction, false, []⟩, ?_⟩
      cases rest with
      | nil => rfl
      | cons byte rest =>
          obtain ⟨_, _, noSmall, noCapital⟩ := ends byte rfl
          exact if_neg (by simp [noSmall, noCapital])
  | @some letter sign text isLetter isSign digits =>
      obtain ⟨negative, exponent, found⟩ := readExponent_digits atEnd isSign digits ends.noDigit
      refine ⟨⟨whole, fraction, negative, exponent⟩, ?_⟩
      rcases isLetter with rfl | rfl
      · show (readExponent atEnd (utf8 (sign ++ text) ++ rest) >>= _) = _
        rw [found]
        rfl
      · show (readExponent atEnd (utf8 (sign ++ text) ++ rest) >>= _) = _
        rw [found]
        rfl

/-- Where no exponent is, what follows neither has a digit at once nor a point. -/
theorem exponent_stops {text : List Char} (isExponent : IsExponent text) {rest : Bytes}
    (ends : Ends rest) :
    NoDigit (utf8 text ++ rest) ∧ point ∉ (utf8 text ++ rest).head? := by
  cases isExponent with
  | none => exact ⟨ends.noDigit, fun isPoint => (ends point isPoint).2.1 rfl⟩
  | some isLetter _ _ =>
      rcases isLetter with rfl | rfl
      · exact ⟨fun byte isFirst => by cases isFirst; rfl, by rintro ⟨⟩⟩
      · exact ⟨fun byte isFirst => by cases isFirst; rfl, by rintro ⟨⟩⟩

theorem fraction_stops {text : List Char} (isFraction : IsFraction text) {rest : Bytes}
    (stops : NoDigit rest) : NoDigit (utf8 text ++ rest) := by
  cases isFraction with
  | none => exact stops
  | some _ => exact fun byte isFirst => by cases isFirst; rfl

theorem readNumeral_parts (atEnd : Fault) {whole fraction exponent : List Char}
    (isWhole : IsWhole whole) (isFraction : IsFraction fraction)
    (isExponent : IsExponent exponent) {rest : Bytes} (ends : Ends rest) :
    ∃ numeral, readNumeral atEnd (utf8 (whole ++ (fraction ++ exponent)) ++ rest) =
      .ok (numeral, rest) := by
  obtain ⟨exponentStops, noPoint⟩ := exponent_stops isExponent ends
  obtain ⟨wholeDigits, wholeRead⟩ :=
    wholePart_whole atEnd isWhole (fraction_stops isFraction exponentStops)
  obtain ⟨fractionDigits, fractionRead⟩ :=
    fractionPart_fraction atEnd isFraction exponentStops noPoint
  obtain ⟨numeral, exponentRead⟩ :=
    exponentPart_exponent atEnd wholeDigits fractionDigits isExponent ends
  refine ⟨numeral, ?_⟩
  rw [utf8_append, utf8_append, List.append_assoc, List.append_assoc, readNumeral_eq, wholeRead,
    ok_bind]
  dsimp only
  rw [fractionRead, ok_bind]
  exact exponentRead

theorem IsWhole.begins {text : List Char} (isWhole : IsWhole text) (rest : Bytes) :
    ∃ digit others, utf8 text ++ rest = digit :: others ∧ isDigitByte digit = true := by
  cases isWhole with
  | zero => exact ⟨0x30, rest, rfl, rfl⟩
  | @digits first others isPositive digits =>
      obtain ⟨digit, written, isDigit, _⟩ := exists_utf8_decimalDigit (digits.2 first (by simp))
      refine ⟨digit, utf8 others ++ rest, ?_, isDigit⟩
      rw [utf8_cons, written]
      rfl

/-- A number begins with its sign or with a digit. -/
theorem IsNumber.begins {text : List Char} (isNumber : IsNumber text) (rest : Bytes) :
    ∃ byte others, utf8 text ++ rest = byte :: others ∧
      (byte = minus ∨ isDigitByte byte = true) := by
  cases isNumber with
  | @parts sign whole fraction exponent isSign isWhole _ _ =>
      rcases isSign with rfl | rfl
      · obtain ⟨digit, others, bytes, isDigit⟩ :=
          isWhole.begins (utf8 (fraction ++ exponent) ++ rest)
        refine ⟨digit, others, ?_, .inr isDigit⟩
        rw [List.nil_append, utf8_append, List.append_assoc, bytes]
      · exact ⟨minus, _, rfl, .inl rfl⟩

theorem IsNumber.isNonempty {text : List Char} (isNumber : IsNumber text) : text ≠ [] := by
  rintro rfl
  obtain ⟨byte, others, bytes, _⟩ := isNumber.begins []
  cases bytes

/-- With its sign aside a number is read up to where it ends. -/
theorem IsNumber.reads (atEnd : Fault) {text : List Char} (isNumber : IsNumber text)
    {rest : Bytes} (ends : Ends rest) :
    ∃ byte others numeral, utf8 text ++ rest = byte :: others ∧
      (byte = minus ∧ readNumeral atEnd others = .ok (numeral, rest) ∨
        isDigitByte byte = true ∧ readNumeral atEnd (byte :: others) = .ok (numeral, rest)) := by
  cases isNumber with
  | @parts sign whole fraction exponent isSign isWhole isFraction isExponent =>
      obtain ⟨numeral, read⟩ := readNumeral_parts atEnd isWhole isFraction isExponent ends
      rcases isSign with rfl | rfl
      · obtain ⟨digit, others, bytes, isDigit⟩ :=
          isWhole.begins (utf8 (fraction ++ exponent) ++ rest)
        have whole : utf8 (whole ++ (fraction ++ exponent)) ++ rest = digit :: others := by
          rw [utf8_append, List.append_assoc, bytes]
        rw [whole] at read
        exact ⟨digit, others, numeral, whole, .inr ⟨isDigit, read⟩⟩
      · exact ⟨minus, _, numeral, rfl, .inl ⟨rfl, read⟩⟩

/-! ## What is read -/

theorem exists_decimalDigit {byte : UInt8} (isDigit : isDigitByte byte = true) :
    ∃ c ∈ decimalDigits, String.utf8EncodeChar c = [byte] ∧ (c = '0' → byte = zero) := by
  have all : ∀ place : Fin 10, Char.ofNat (0x30 + place.val) ∈ decimalDigits ∧
      String.utf8EncodeChar (Char.ofNat (0x30 + place.val)) = [UInt8.ofNat (0x30 + place.val)] ∧
        (Char.ofNat (0x30 + place.val) = '0' → UInt8.ofNat (0x30 + place.val) = zero) := by
    decide +kernel
  simp only [isDigitByte, Bool.and_eq_true, decide_eq_true_eq, UInt8.le_iff_toNat_le] at isDigit
  obtain ⟨low, high⟩ := isDigit
  change 0x30 ≤ byte.toNat at low
  change byte.toNat ≤ 0x39 at high
  have found := all ⟨byte.toNat - 0x30, by omega⟩
  simp only [Nat.add_sub_cancel' low, UInt8.ofNat_toNat] at found
  exact ⟨_, found⟩

/-- Bytes that are digits are the text of digits. -/
theorem exists_digits (bytes : Bytes) (digits : ∀ byte ∈ bytes, isDigitByte byte = true) :
    ∃ text, (∀ c ∈ text, c ∈ decimalDigits) ∧ utf8 text = bytes := by
  induction bytes with
  | nil => exact ⟨[], by simp, rfl⟩
  | cons byte bytes inductionHypothesis =>
      obtain ⟨isDigit, others⟩ := List.forall_mem_cons.mp digits
      obtain ⟨c, isDecimal, written, _⟩ := exists_decimalDigit isDigit
      obtain ⟨text, all, writtenOthers⟩ := inductionHypothesis others
      exact ⟨c :: text, List.forall_mem_cons.mpr ⟨isDecimal, all⟩, by
        rw [utf8_cons, written, writtenOthers]
        rfl⟩

/-- Digits are taken as long as there are any, of which the first is one. -/
theorem exists_isDigits {byte : UInt8} (isDigit : isDigitByte byte = true) (rest : Bytes) :
    ∃ c others, IsDigits (c :: others) ∧ (c = '0' → byte = zero) ∧
      byte :: rest = utf8 (c :: others) ++ (byte :: rest).dropWhile isDigitByte := by
  obtain ⟨c, isDecimal, written, isZero⟩ := exists_decimalDigit isDigit
  obtain ⟨others, all, writtenOthers⟩ :=
    exists_digits (rest.takeWhile isDigitByte) fun byte => List.mem_takeWhile_imp
  refine ⟨c, others, ⟨List.cons_ne_nil c others, List.forall_mem_cons.mpr ⟨isDecimal, all⟩⟩,
    isZero, ?_⟩
  rw [utf8_cons, written, writtenOthers, List.dropWhile_cons_of_pos isDigit, List.append_assoc,
    List.takeWhile_append_dropWhile]
  rfl

theorem exists_whole_of_wholePart {atEnd : Fault} {input whole rest : Bytes}
    (read : wholePart atEnd input = .ok (whole, rest)) :
    ∃ text, IsWhole text ∧ input = utf8 text ++ rest := by
  cases input with
  | nil => cases read
  | cons byte input =>
      simp only [wholePart] at read
      split at read
      case isTrue isZero =>
        subst isZero
        refine ⟨['0'], .zero, ?_⟩
        split at read
        case h_1 =>
          split at read
          · cases read
          · cases read
            rfl
        case h_2 =>
          cases read
          rfl
      case isFalse notZero =>
        split at read
        case isTrue isDigit =>
          cases read
          obtain ⟨c, others, digits, isZero, bytes⟩ := exists_isDigits isDigit input
          exact ⟨c :: others, .digits (fun same => notZero (isZero same)) digits, bytes⟩
        case isFalse => cases read

theorem exists_fraction_of_fractionPart {atEnd : Fault} {input fraction rest : Bytes}
    (read : fractionPart atEnd input = .ok (fraction, rest)) :
    ∃ text, IsFraction text ∧ input = utf8 text ++ rest := by
  cases input with
  | nil =>
      cases read
      exact ⟨[], .none, rfl⟩
  | cons byte input =>
      simp only [fractionPart] at read
      split at read
      case isTrue isPoint =>
        subst isPoint
        cases input with
        | nil => cases read
        | cons next input =>
            dsimp only at read
            split at read
            case isTrue isDigit =>
              cases read
              obtain ⟨c, others, digits, _, bytes⟩ := exists_isDigits isDigit input
              exact ⟨'.' :: c :: others, .some digits, congrArg (point :: ·) bytes⟩
            case isFalse => cases read
      case isFalse =>
        cases read
        exact ⟨[], .none, rfl⟩

/-- The digits of an exponent, behind its sign. -/
def exponentDigits (atEnd : Fault) (negative : Bool) (input : Bytes) :
    Except Fault (Bool × Bytes × Bytes) :=
  match input with
  | [] => .error atEnd
  | byte :: _ =>
    if isDigitByte byte then
      .ok (negative, input.takeWhile isDigitByte, input.dropWhile isDigitByte)
    else
      .error .malformed

/-- The sign of an exponent is taken off, if there is one. -/
theorem readExponent_eq (atEnd : Fault) (input : Bytes) :
    ∃ sign negative digits, (sign = [] ∨ sign = ['+'] ∨ sign = ['-']) ∧
      input = utf8 sign ++ digits ∧
      readExponent atEnd input = exponentDigits atEnd negative digits := by
  cases input with
  | nil => exact ⟨[], false, [], .inl rfl, rfl, rfl⟩
  | cons byte input =>
      by_cases isPlus : byte = plus
      · subst isPlus
        exact ⟨['+'], false, input, .inr (.inl rfl), rfl, rfl⟩
      · by_cases isMinus : byte = minus
        · subst isMinus
          exact ⟨['-'], true, input, .inr (.inr rfl), rfl, rfl⟩
        · refine ⟨[], false, byte :: input, .inl rfl, rfl, ?_⟩
          simp only [readExponent, if_neg isPlus, if_neg isMinus]
          rfl

theorem exists_digits_of_readExponent {atEnd : Fault} {input exponent rest : Bytes}
    {negative : Bool} (read : readExponent atEnd input = .ok (negative, exponent, rest)) :
    ∃ sign text, (sign = [] ∨ sign = ['+'] ∨ sign = ['-']) ∧ IsDigits text ∧
      input = utf8 (sign ++ text) ++ rest := by
  obtain ⟨sign, isNegative, digits, isSign, rfl, same⟩ := readExponent_eq atEnd input
  rw [same] at read
  cases digits with
  | nil => cases read
  | cons byte digits =>
      simp only [exponentDigits] at read
      split at read
      case isTrue isDigit =>
        cases read
        obtain ⟨c, others, isDigits, _, bytes⟩ := exists_isDigits isDigit digits
        exact ⟨sign, c :: others, isSign, isDigits, by
          rw [utf8_append, List.append_assoc, ← bytes]⟩
      case isFalse => cases read

theorem exists_exponent_of_exponentPart {atEnd : Fault} {whole fraction input rest : Bytes}
    {numeral : Numeral} (read : exponentPart atEnd whole fraction input = .ok (numeral, rest)) :
    ∃ text, IsExponent text ∧ input = utf8 text ++ rest := by
  cases input with
  | nil =>
      cases read
      exact ⟨[], .none, rfl⟩
  | cons letter input =>
      simp only [exponentPart] at read
      split at read
      case isTrue isLetter =>
        obtain ⟨⟨negative, exponent, between⟩, readDigits, onward⟩ := bind_eq_ok_iff.mp read
        cases onward
        obtain ⟨sign, text, isSign, digits, bytes⟩ := exists_digits_of_readExponent readDigits
        rcases Bool.or_eq_true_iff.mp isLetter with small | capital
        · refine ⟨'e' :: (sign ++ text), .some (.inl rfl) isSign digits, ?_⟩
          rw [of_decide_eq_true small, bytes]
          rfl
        · refine ⟨'E' :: (sign ++ text), .some (.inr rfl) isSign digits, ?_⟩
          rw [of_decide_eq_true capital, bytes]
          rfl
      case isFalse =>
        cases read
        exact ⟨[], .none, rfl⟩

/-- What is read behind the sign of a number is a number. -/
theorem exists_parts_of_readNumeral {atEnd : Fault} {input rest : Bytes} {numeral : Numeral}
    (read : readNumeral atEnd input = .ok (numeral, rest)) :
    ∃ text, (∀ sign, sign = [] ∨ sign = ['-'] → IsNumber (sign ++ text)) ∧
      input = utf8 text ++ rest := by
  rw [readNumeral_eq] at read
  obtain ⟨⟨wholeDigits, afterWhole⟩, readWhole, onward⟩ := bind_eq_ok_iff.mp read
  obtain ⟨⟨fractionDigits, afterFraction⟩, readFraction, readExponent⟩ :=
    bind_eq_ok_iff.mp onward
  obtain ⟨whole, isWhole, bytes⟩ := exists_whole_of_wholePart readWhole
  obtain ⟨fraction, isFraction, fractionBytes⟩ := exists_fraction_of_fractionPart readFraction
  obtain ⟨exponent, isExponent, exponentBytes⟩ := exists_exponent_of_exponentPart readExponent
  refine ⟨whole ++ (fraction ++ exponent), fun sign isSign => ?_, ?_⟩
  · exact .parts isSign isWhole isFraction isExponent
  · rw [bytes, fractionBytes, exponentBytes]
    simp only [utf8_append, List.append_assoc]

end PromptRelay.Json
