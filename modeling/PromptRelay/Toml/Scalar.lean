import PromptRelay.Decimal.Limit
import PromptRelay.Text.Letters
import PromptRelay.Text.Natural
import PromptRelay.Text.Pieces
import PromptRelay.Toml.Value
import PromptRelay.Word

/-!
Contract: the scalars of TOML: strings, numbers, truth values, and dates and
times.

Owns:
- the four notations of strings with their escapes;
- integers in four bases, floats, and the calendar rules of dates and times.

Does not own: arrays, tables and the lines of a document.
-/

namespace PromptRelay.Toml

open Text

/-- A scanner takes a value off the front of the text, or fails. -/
abbrev Scanner (α : Type) := List Char → Option (α × List Char)

/-- Blanks within a line. -/
def isSpace (c : Char) : Bool := c == ' ' || c == '\t'

def skipSpace (cs : List Char) : List Char := cs.dropWhile isSpace

/-- What follows a line feed, or a carriage return and a line feed. -/
def newline? : List Char → Option (List Char)
  | '\n' :: rest => some rest
  | '\r' :: '\n' :: rest => some rest
  | _ => none

/-- Characters that stand for themselves in comments and strings: no control
character but the tab. -/
def isPlain (c : Char) : Bool :=
  c == '\t' || (0x20 ≤ c.toNat && c.toNat ≠ 0x7F)

/-! ## Strings -/

/-- The character with the code that `count` hexadecimal digits spell. -/
def scanCode (count : Nat) : Scanner Char := fun cs =>
  let digits := cs.take count
  if digits.length = count then do
    let values ← digits.mapM hexValue?
    let code := values.foldl (fun code value => 16 * code + value) 0
    if code < 0xD800 || (0xDFFF < code && code ≤ 0x10FFFF) then
      some (Char.ofNat code, cs.drop count)
    else
      none
  else
    none

/-- The character of an escape, after its backslash. -/
def scanEscape : Scanner Char
  | 'b' :: rest => some ('\x08', rest)
  | 't' :: rest => some ('\t', rest)
  | 'n' :: rest => some ('\n', rest)
  | 'f' :: rest => some ('\x0c', rest)
  | 'r' :: rest => some ('\r', rest)
  | '"' :: rest => some ('"', rest)
  | '\\' :: rest => some ('\\', rest)
  | 'u' :: rest => scanCode 4 rest
  | 'U' :: rest => scanCode 8 rest
  | _ => none

/-- A string in double quotes on one line, after its opening quote. -/
def scanBasic : (fuel : Nat) → Scanner (List Char)
  | 0, _ => none
  | _, [] => none
  | fuel + 1, c :: rest =>
    if c = '"' then
      some ([], rest)
    else if c = '\\' then do
      let (c, rest) ← scanEscape rest
      let (content, rest) ← scanBasic fuel rest
      some (c :: content, rest)
    else if isPlain c then do
      let (content, rest) ← scanBasic fuel rest
      some (c :: content, rest)
    else
      none

/-- A string in single quotes on one line, after its opening quote. -/
def scanLiteral : Scanner (List Char)
  | [] => none
  | c :: rest =>
    if c = '\'' then
      some ([], rest)
    else if isPlain c then do
      let (content, rest) ← scanLiteral rest
      some (c :: content, rest)
    else
      none

/-- Closes a string of several lines: three quotes, and up to two quotes before
them that belong to the string. -/
def closing? (quote : Char) (cs : List Char) : Option (List Char × List Char) :=
  let quotes := (cs.takeWhile (· == quote)).length
  if quotes < 3 then none
  else
    let own := min (quotes - 3) 2
    some (List.replicate own quote, cs.drop (own + 3))

/-- Blanks and line breaks, for a backslash that ends a line. -/
def skipLayout : (fuel : Nat) → List Char → List Char
  | 0, cs => cs
  | fuel + 1, cs =>
    match cs with
    | [] => []
    | c :: rest =>
      if isSpace c then skipLayout fuel rest
      else match newline? (c :: rest) with
        | some rest => skipLayout fuel rest
        | none => c :: rest

/-- A string in three double quotes, after them. A backslash at the end of a
line takes the line break and the blanks that follow out of the string. -/
def scanBasicLines : (fuel : Nat) → Scanner (List Char)
  | 0, _ => none
  | fuel + 1, cs =>
    match closing? '"' cs with
    | some (content, rest) => some (content, rest)
    | none =>
      match cs with
      | [] => none
      | c :: rest =>
        if c = '\\' then
          match newline? (skipSpace rest) with
          | some rest => scanBasicLines fuel (skipLayout rest.length rest)
          | none => do
            let (c, rest) ← scanEscape rest
            let (content, rest) ← scanBasicLines fuel rest
            some (c :: content, rest)
        else
          match newline? (c :: rest) with
          | some rest => do
            let (content, rest) ← scanBasicLines fuel rest
            some ('\n' :: content, rest)
          | none =>
            if isPlain c then do
              let (content, rest) ← scanBasicLines fuel rest
              some (c :: content, rest)
            else
              none

/-- A string in three single quotes, after them. -/
def scanLiteralLines : (fuel : Nat) → Scanner (List Char)
  | 0, _ => none
  | fuel + 1, cs =>
    match closing? '\'' cs with
    | some (content, rest) => some (content, rest)
    | none =>
      match newline? cs with
      | some rest => do
        let (content, rest) ← scanLiteralLines fuel rest
        some ('\n' :: content, rest)
      | none =>
        match cs with
        | [] => none
        | c :: rest =>
          if isPlain c then do
            let (content, rest) ← scanLiteralLines fuel rest
            some (c :: content, rest)
          else
            none

/-- A line break right after the opening quotes is not part of the string. -/
def dropFirstBreak (cs : List Char) : List Char :=
  (newline? cs).getD cs

/-- A string on one line, as keys may be written too. -/
def scanLineString : Scanner String
  | '"' :: rest => do
    let (content, rest) ← scanBasic (rest.length + 1) rest
    some (String.ofList content, rest)
  | '\'' :: rest => do
    let (content, rest) ← scanLiteral rest
    some (String.ofList content, rest)
  | _ => none

def scanString : Scanner String
  | '"' :: '"' :: '"' :: rest => do
    let (content, rest) ← scanBasicLines (rest.length + 1) (dropFirstBreak rest)
    some (String.ofList content, rest)
  | '\'' :: '\'' :: '\'' :: rest => do
    let (content, rest) ← scanLiteralLines (rest.length + 1) (dropFirstBreak rest)
    some (String.ofList content, rest)
  | cs => scanLineString cs

/-! ## Numbers -/

/-- Digits of a class with a single underscore between some of them. -/
def scanDigits (isMember : Char → Bool) : Scanner (List Char)
  | c :: rest =>
    if isMember c then
      match rest with
      | '_' :: next =>
        match scanDigits isMember next with
        | some (digits, rest) => some (c :: digits, rest)
        | none => none
      | next =>
        match scanDigits isMember next with
        | some (digits, rest) => some (c :: digits, rest)
        | none => some ([c], next)
    else
      none
  | [] => none

/-- The value of digits in a base. -/
def valueIn (base : Nat) (digits : List Char) : Nat :=
  digits.foldl (fun value digit => base * value + (hexValue? digit).getD 0) 0

/-- A signed integer of 64 bits. -/
def bounded? (value : Int) : Option Value :=
  if Word.isSigned value then some (.integer value) else none

def scanBased (base : Nat) (isMember : Char → Bool) : Scanner Value := fun cs => do
  let (digits, rest) ← scanDigits isMember cs
  let value ← bounded? (valueIn base digits)
  some (value, rest)

def isHexDigit (c : Char) : Bool := (hexValue? c).isSome
def isOctalDigit (c : Char) : Bool := '0' ≤ c && c ≤ '7'
def isBinaryDigit (c : Char) : Bool := c == '0' || c == '1'

/-- The sign of a number, if it has one, and what follows. -/
def scanSign : List Char → Option Char × List Char
  | '+' :: rest => (some '+', rest)
  | '-' :: rest => (some '-', rest)
  | rest => (none, rest)

/-- A decimal integer without its sign: no leading zeros. -/
def scanDecimal : Scanner (List Char)
  | '0' :: rest => some (['0'], rest)
  | rest => scanDigits isDigit rest

/-- A fraction, an exponent, or both; their digits may start with zeros. -/
def scanFloatTail (cs : List Char) : Option (List Char × Int × List Char) := do
  let (fraction, rest) ← match cs with
    | '.' :: rest => scanDigits isDigit rest
    | rest => some ([], rest)
  match rest with
  | letter :: rest' =>
    if letter = 'e' || letter = 'E' then do
      let (sign, rest) := scanSign rest'
      let (digits, rest) ← scanDigits isDigit rest
      let exponent : Int := decimalValue digits
      some (fraction, if sign = some '-' then -exponent else exponent, rest)
    else if fraction.isEmpty then none
    else some (fraction, 0, rest)
  | [] => if fraction.isEmpty then none else some (fraction, 0, [])

/-- Whether digits before and after the point and an exponent stand for a number
too large for a finite double. -/
def isTooLarge (whole fraction : List Char) (exponent : Int) : Bool :=
  Decimal.isTooLarge ((whole ++ fraction).map digitValue) (exponent - fraction.length)

/-- The text that was taken off, given what it was taken off from. -/
def taken (cs rest : List Char) : String :=
  String.ofList (cs.take (cs.length - rest.length))

def scanNumber : Scanner Value
  | '0' :: 'x' :: rest => scanBased 16 isHexDigit rest
  | '0' :: 'o' :: rest => scanBased 8 isOctalDigit rest
  | '0' :: 'b' :: rest => scanBased 2 isBinaryDigit rest
  | cs => do
    let (sign, body) := scanSign cs
    match after? "inf".toList body, after? "nan".toList body with
    | some rest, _ => some (.float (taken cs rest), rest)
    | _, some rest => some (.float (taken cs rest), rest)
    | none, none =>
      let (digits, rest) ← scanDecimal body
      match scanFloatTail rest with
      | some (fraction, exponent, rest) =>
        if sign ≠ some '-' && isTooLarge digits fraction exponent then none
        else some (.float (taken cs rest), rest)
      | none =>
        let magnitude : Int := decimalValue digits
        let value ← bounded? (if sign = some '-' then -magnitude else magnitude)
        some (value, rest)

/-! ## Dates and times -/

/-- A number of exactly `count` digits within bounds. -/
def scanField (count low high : Nat) : Scanner Nat := fun cs =>
  let digits := cs.take count
  if digits.length = count && digits.all isDigit then
    let value := decimalValue digits
    if low ≤ value && value ≤ high then some (value, cs.drop count) else none
  else
    none

def expectChar (c : Char) : List Char → Option (List Char)
  | d :: rest => if d = c then some rest else none
  | [] => none

def isLeap (year : Nat) : Bool :=
  year % 4 = 0 && (year % 100 ≠ 0 || year % 400 = 0)

def daysIn (year month : Nat) : Nat :=
  if month = 2 then (if isLeap year then 29 else 28)
  else if month = 4 || month = 6 || month = 9 || month = 11 then 30
  else 31

/-- What follows a date, if the text begins with one. -/
def afterDate? (cs : List Char) : Option (List Char) := do
  let (year, rest) ← scanField 4 0 9999 cs
  let rest ← expectChar '-' rest
  let (month, rest) ← scanField 2 1 12 rest
  let rest ← expectChar '-' rest
  let (_, rest) ← scanField 2 1 (daysIn year month) rest
  some rest

/-- What follows a time, if the text begins with one. -/
def afterTime? (cs : List Char) : Option (List Char) := do
  let (_, rest) ← scanField 2 0 23 cs
  let rest ← expectChar ':' rest
  let (_, rest) ← scanField 2 0 59 rest
  let rest ← expectChar ':' rest
  let (_, rest) ← scanField 2 0 60 rest
  match rest with
  | '.' :: fraction =>
    if fraction.head?.any isDigit then some (fraction.dropWhile isDigit) else some rest
  | rest => some rest

/-- What follows the offset from universal time, if there is one. -/
def afterOffset (cs : List Char) : List Char :=
  match cs with
  | 'Z' :: rest => rest
  | 'z' :: rest => rest
  | sign :: rest =>
    if sign = '+' || sign = '-' then
      let offset := do
        let (_, rest) ← scanField 2 0 23 rest
        let rest ← expectChar ':' rest
        let (_, rest) ← scanField 2 0 59 rest
        some rest
      offset.getD cs
    else
      cs
  | [] => []

def scanMoment : Scanner Value := fun cs =>
  match afterDate? cs with
  | some rest =>
    let rest := match rest with
      | mark :: time =>
        if mark = 'T' || mark = 't' || mark = ' ' then
          match afterTime? time with
          | some rest => afterOffset rest
          | none => rest
        else rest
      | [] => []
    some (.moment (taken cs rest), rest)
  | none => do
    let rest ← afterTime? cs
    some (.moment (taken cs rest), rest)

/-! ## Scalars -/

def scanScalar : Scanner Value := fun cs =>
  match cs with
  | [] => none
  | c :: _ =>
    if c = '"' || c = '\'' then do
      let (content, rest) ← scanString cs
      some (.text content, rest)
    else if c = 't' then do
      some (.boolean true, ← after? "true".toList cs)
    else if c = 'f' then do
      some (.boolean false, ← after? "false".toList cs)
    else
      match scanMoment cs with
      | some found => some found
      | none => scanNumber cs

end PromptRelay.Toml
