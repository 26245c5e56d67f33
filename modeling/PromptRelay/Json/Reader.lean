import PromptRelay.Decimal.Limit
import PromptRelay.Text.Bytes

/-!
Contract: reading JSON tokens from bytes, front to back.

Owns:
- the three kinds of fault and the rule that the first fault in reading order
  decides;
- blanks, literals, numbers and strings;
- skipping a value of any shape and any depth without building it;
- the fault of a value that is not of the wanted kind.

Does not own: records and lists of a known shape.
-/

namespace PromptRelay.Json

open Text (Bytes)

/-- Why a text is not the JSON value that was wanted. -/
inductive Fault where
  /-- The text is not JSON. -/
  | malformed
  /-- The text ended too early. -/
  | truncated
  /-- The text was JSON so far, but not of the wanted shape. -/
  | mismatched
deriving DecidableEq, Repr

/-- A reader takes a value off the front of the bytes. -/
abbrev Reader (α : Type) := Bytes → Except Fault (α × Bytes)

/-! ## Bytes of the grammar -/

abbrev quote : UInt8 := 0x22
abbrev plus : UInt8 := 0x2B
abbrev comma : UInt8 := 0x2C
abbrev minus : UInt8 := 0x2D
abbrev point : UInt8 := 0x2E
abbrev zero : UInt8 := 0x30
abbrev colon : UInt8 := 0x3A
abbrev openList : UInt8 := 0x5B
abbrev backslash : UInt8 := 0x5C
abbrev closeList : UInt8 := 0x5D
abbrev letterB : UInt8 := 0x62
abbrev letterE : UInt8 := 0x65
abbrev letterF : UInt8 := 0x66
abbrev letterN : UInt8 := 0x6E
abbrev letterR : UInt8 := 0x72
abbrev letterT : UInt8 := 0x74
abbrev letterU : UInt8 := 0x75
abbrev openObject : UInt8 := 0x7B
abbrev closeObject : UInt8 := 0x7D

def isSpace (byte : UInt8) : Bool :=
  byte == 0x20 || byte == 0x0A || byte == 0x09 || byte == 0x0D

def isDigitByte (byte : UInt8) : Bool :=
  0x30 ≤ byte && byte ≤ 0x39

def skipSpace (input : Bytes) : Bytes :=
  input.dropWhile isSpace

/-! ## Literals -/

/-- Takes exactly the expected bytes. -/
def expect : (expected : Bytes) → Bytes → Except Fault Bytes
  | [], rest => .ok rest
  | _ :: _, [] => .error .truncated
  | byte :: expected, found :: rest =>
    if byte = found then expect expected rest else .error .malformed

/-- `true`, `false` and `null` without their first letter. -/
def trueTail : Bytes := [0x72, 0x75, 0x65]
def falseTail : Bytes := [0x61, 0x6C, 0x73, 0x65]
def nullTail : Bytes := [0x75, 0x6C, 0x6C]

/-! ## Strings -/

def hexValue? (byte : UInt8) : Option Nat :=
  if 0x30 ≤ byte && byte ≤ 0x39 then some (byte.toNat - 0x30)
  else if 0x41 ≤ byte && byte ≤ 0x46 then some (byte.toNat - 0x41 + 10)
  else if 0x61 ≤ byte && byte ≤ 0x66 then some (byte.toNat - 0x61 + 10)
  else none

/-- The UTF-16 unit that the next four bytes spell. Fewer than four bytes are a
truncated text, whatever they are. -/
def readUnit : Reader Nat
  | a :: b :: c :: d :: rest =>
    match hexValue? a, hexValue? b, hexValue? c, hexValue? d with
    | some a, some b, some c, some d => .ok (((a * 16 + b) * 16 + c) * 16 + d, rest)
    | _, _, _, _ => .error .malformed
  | _ => .error .truncated

/-- The character of an escape with four digits, or with twice four where the
first unit is the leading half of a surrogate pair. -/
def readUnicodeEscape (input : Bytes) : Except Fault (Char × Bytes) := do
  let (unit, rest) ← readUnit input
  if 0xDC00 ≤ unit && unit ≤ 0xDFFF then
    .error .malformed
  else if unit < 0xD800 || 0xDFFF < unit then
    .ok (Char.ofNat unit, rest)
  else
    let rest ← expect [backslash, letterU] rest
    let (low, rest) ← readUnit rest
    if low < 0xDC00 || 0xDFFF < low then
      .error .malformed
    else
      .ok (Char.ofNat (0x10000 + (unit - 0xD800) * 0x400 + (low - 0xDC00)), rest)

/-- The byte that a one-letter escape stands for. -/
def shortEscape? (letter : UInt8) : Option UInt8 :=
  if letter = quote then some 0x22
  else if letter = backslash then some 0x5C
  else if letter = 0x2F then some 0x2F
  else if letter = letterB then some 0x08
  else if letter = letterF then some 0x0C
  else if letter = letterN then some 0x0A
  else if letter = letterR then some 0x0D
  else if letter = letterT then some 0x09
  else none

/-- The bytes that an escape stands for, after its backslash. -/
def readEscape : Reader Bytes
  | [] => .error .truncated
  | letter :: rest =>
    if letter = letterU then do
      let (c, rest) ← readUnicodeEscape rest
      .ok (String.utf8EncodeChar c, rest)
    else
      match shortEscape? letter with
      | some byte => .ok ([byte], rest)
      | none => .error .malformed

/-- Reads on to the closing quote and gives the bytes in between, unescaped.
`fuel` bounds the number of characters. -/
def readContent : (fuel : Nat) → Reader Bytes
  | 0, _ => .error .truncated
  | _, [] => .error .truncated
  | fuel + 1, byte :: rest =>
    if byte = quote then
      .ok ([], rest)
    else if byte = backslash then do
      let (start, rest) ← readEscape rest
      let (content, rest) ← readContent fuel rest
      .ok (start ++ content, rest)
    else if byte < 0x20 then
      .error .malformed
    else do
      let (content, rest) ← readContent fuel rest
      .ok (byte :: content, rest)

/-- A string after its opening quote. Its bytes have to be valid UTF-8, which is
looked at once the closing quote is found. -/
def readQuoted (input : Bytes) : Except Fault (String × Bytes) := do
  let (content, rest) ← readContent (input.length + 1) input
  match Text.ofBytes? content with
  | some text => .ok (text, rest)
  | none => .error .malformed

/-- Passes over a string after its opening quote. Escapes have to be complete,
but they need not name a character, and the bytes need not be valid UTF-8. -/
def skipQuoted : (fuel : Nat) → Bytes → Except Fault Bytes
  | 0, _ => .error .truncated
  | _, [] => .error .truncated
  | fuel + 1, byte :: rest =>
    if byte = quote then
      .ok rest
    else if byte = backslash then
      match rest with
      | [] => .error .truncated
      | letter :: rest =>
        if letter = letterU then do
          let (_, rest) ← readUnit rest
          skipQuoted fuel rest
        else if (shortEscape? letter).isSome then
          skipQuoted fuel rest
        else
          .error .malformed
    else if byte < 0x20 then
      .error .malformed
    else
      skipQuoted fuel rest

/-! ## Numbers -/

/-- The digits of a number: of its integer, its fraction and its exponent. -/
structure Numeral where
  whole : Bytes
  fraction : Bytes
  negativeExponent : Bool
  exponent : Bytes
deriving DecidableEq, Repr

/-- Reads the exponent of a number after its letter. -/
def readExponent (atEnd : Fault) (input : Bytes) : Except Fault (Bool × Bytes × Bytes) :=
  let (negative, rest) := match input with
    | byte :: rest => if byte = plus then (false, rest)
      else if byte = minus then (true, rest) else (false, input)
    | [] => (false, [])
  match rest with
  | [] => .error atEnd
  | byte :: _ =>
    if isDigitByte byte then
      .ok (negative, rest.takeWhile isDigitByte, rest.dropWhile isDigitByte)
    else
      .error .malformed

/-- Reads a number after its sign. A number that the text cuts short is the
fault `atEnd`. -/
def readNumeral (atEnd : Fault) (input : Bytes) : Except Fault (Numeral × Bytes) := do
  let (whole, rest) ← match input with
    | [] => .error atEnd
    | byte :: rest =>
      if byte = zero then
        match rest with
        | next :: _ => if isDigitByte next then .error .malformed else .ok ([byte], rest)
        | [] => .ok ([byte], rest)
      else if isDigitByte byte then
        .ok (input.takeWhile isDigitByte, input.dropWhile isDigitByte)
      else
        .error .malformed
  let (fraction, rest) ← match rest with
    | byte :: digits =>
      if byte = point then
        match digits with
        | [] => .error atEnd
        | next :: _ =>
          if isDigitByte next then
            .ok (digits.takeWhile isDigitByte, digits.dropWhile isDigitByte)
          else
            .error .malformed
      else
        .ok ([], rest)
    | [] => .ok ([], [])
  match rest with
  | letter :: rest' =>
    if letter = letterE || letter = 0x45 then do
      let (negative, exponent, rest) ← readExponent atEnd rest'
      .ok (⟨whole, fraction, negative, exponent⟩, rest)
    else
      .ok (⟨whole, fraction, false, []⟩, rest)
  | [] => .ok (⟨whole, fraction, false, []⟩, rest)

/-- The values of digits. -/
def digitValues (digits : Bytes) : List Nat :=
  digits.map fun digit => digit.toNat - 0x30

/-- Whether a number is written with a fraction or an exponent and is too large
for a finite double, or is an integer of that size. -/
def Numeral.isTooLarge (numeral : Numeral) : Bool :=
  let size := Decimal.digitsValue (digitValues numeral.exponent)
  let exponent : Int := if numeral.negativeExponent then -size else size
  Decimal.isTooLarge (digitValues (numeral.whole ++ numeral.fraction))
    (exponent - numeral.fraction.length)

/-! ## Values of any shape -/

/-- A list or an object that a skipped value is inside of. -/
inductive Bracket where
  | list
  | object
deriving DecidableEq, Repr

/-- Passes over a value, given the brackets around it, innermost first. With
`opening` the innermost bracket has just been opened and may close at once.
`fuel` bounds the number of tokens. -/
def skipNested : (fuel : Nat) → (brackets : List Bracket) → Bytes → Except Fault Bytes
  | 0, _, _ => .error .truncated
  | fuel + 1, brackets, input =>
    match skipSpace input with
    | [] => .error .truncated
    | byte :: rest =>
      if byte = letterN then do
        skipTail fuel brackets (← expect nullTail rest)
      else if byte = letterT then do
        skipTail fuel brackets (← expect trueTail rest)
      else if byte = letterF then do
        skipTail fuel brackets (← expect falseTail rest)
      else if byte = minus then do
        let (_, rest) ← readNumeral .malformed rest
        skipTail fuel brackets rest
      else if isDigitByte byte then do
        let (_, rest) ← readNumeral .malformed (byte :: rest)
        skipTail fuel brackets rest
      else if byte = quote then do
        skipTail fuel brackets (← skipQuoted (rest.length + 1) rest)
      else if byte = openList then
        match skipSpace rest with
        | [] => .error .truncated
        | next :: rest' =>
          if next = closeList then skipTail fuel brackets rest'
          else skipNested fuel (.list :: brackets) (next :: rest')
      else if byte = openObject then
        match skipSpace rest with
        | [] => .error .truncated
        | next :: rest' =>
          if next = closeObject then skipTail fuel brackets rest'
          else skipName fuel (.object :: brackets) (next :: rest')
      else
        .error .malformed
where
  /-- Goes on after a value: closes brackets until there are none, or until a
  comma leads to a further value. -/
  skipTail : (fuel : Nat) → List Bracket → Bytes → Except Fault Bytes
    | _, [], rest => .ok rest
    | 0, _ :: _, _ => .error .truncated
    | fuel + 1, bracket :: brackets, input =>
      match skipSpace input with
      | [] => .error .truncated
      | byte :: rest =>
        if byte = comma then
          match bracket with
          | .list => skipNested fuel (.list :: brackets) rest
          | .object => skipName fuel (.object :: brackets) rest
        else if byte = (match bracket with | .list => closeList | .object => closeObject) then
          skipTail fuel brackets rest
        else
          .error .malformed
  /-- Passes over the name of a member and its colon, and then over its value. -/
  skipName : (fuel : Nat) → List Bracket → Bytes → Except Fault Bytes
    | 0, _, _ => .error .truncated
    | fuel + 1, brackets, input =>
      match skipSpace input with
      | [] => .error .truncated
      | byte :: rest =>
        if byte = quote then do
          match skipSpace (← skipQuoted (rest.length + 1) rest) with
          | [] => .error .truncated
          | byte :: rest =>
            if byte = colon then skipNested fuel brackets rest else .error .malformed
        else
          .error .malformed

/-- Passes over one value of any shape and depth. -/
def skipValue (input : Bytes) : Except Fault Bytes :=
  skipNested (2 * input.length + 2) [] input

/-- The fault of a value that is of another kind than the wanted one. The value
is looked at as far as telling its kind takes. -/
def unwanted (input : Bytes) : Fault :=
  let outcome : Except Fault Unit := match skipSpace input with
    | [] => .error .truncated
    | byte :: rest =>
      let numeral (digits : Bytes) : Except Fault Unit := do
        let (numeral, _) ← readNumeral .truncated digits
        if numeral.isTooLarge then .error .malformed else .ok ()
      if byte = letterN then (expect nullTail rest).map fun _ => ()
      else if byte = letterT then (expect trueTail rest).map fun _ => ()
      else if byte = letterF then (expect falseTail rest).map fun _ => ()
      else if byte = minus then numeral rest
      else if isDigitByte byte then numeral (byte :: rest)
      else if byte = quote then (readQuoted rest).map fun _ => ()
      else if byte = openList || byte = openObject then .ok ()
      else .error .malformed
  match outcome with
  | .error fault => fault
  | .ok () => .mismatched

end PromptRelay.Json
