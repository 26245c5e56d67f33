import PromptRelay.Template.Expression
import PromptRelay.Text.Letters
import PromptRelay.Text.Natural
import PromptRelay.Text.Pieces
import PromptRelay.Word

/-!
Contract: the smallest pieces of a template's source.

Owns:
- layout between pieces, names, numbers, quoted texts and booleans;
- paths with their steps.

Does not own: expressions and tags. Every scanner either takes a piece off the
front of the source or leaves it alone.
-/

namespace PromptRelay.Template

open Text

abbrev Scanner (α : Type) := List Char → Option (α × List Char)

def isLayout (c : Char) : Bool :=
  c == ' ' || c == '\t' || c == '\r' || c == '\n'

def skipLayout (cs : List Char) : List Char :=
  cs.dropWhile isLayout

/-- At least one layout character. -/
def someLayout : List Char → Option (List Char)
  | c :: rest => if isLayout c then some (skipLayout rest) else none
  | [] => none

/-- What follows the given word, which need not end there. -/
def afterWord (word : String) (cs : List Char) : Option (List Char) :=
  after? word.toList cs

/-! ## Names -/

def isNameStart (c : Char) : Bool :=
  ('a' ≤ c && c ≤ 'z') || ('A' ≤ c && c ≤ 'Z') || c == '_'

def isNamePart (c : Char) : Bool :=
  isNameStart c || isDigit c

def scanName : Scanner String
  | c :: rest =>
    if isNameStart c then
      some (String.ofList (c :: rest.takeWhile isNamePart), rest.dropWhile isNamePart)
    else
      none
  | [] => none

/-! ## Literals -/

/-- Digits without a leading zero, or a zero. -/
def scanMagnitude : Scanner (List Char)
  | '0' :: rest => some (['0'], rest)
  | c :: rest =>
    if isDigit c then some (c :: rest.takeWhile isDigit, rest.dropWhile isDigit) else none
  | [] => none

def scanMinus : List Char → Bool × List Char
  | '-' :: rest => (true, rest)
  | cs => (false, cs)

/-- The text of an integer of any size. -/
def scanWholeText : Scanner String := fun cs => do
  let (isNegative, rest) := scanMinus cs
  let (digits, rest) ← scanMagnitude rest
  some (String.ofList (if isNegative then '-' :: digits else digits), rest)

/-- An integer of 64 bits. -/
def scanWhole : Scanner Term := fun cs => do
  let (isNegative, rest) := scanMinus cs
  let (digits, rest) ← scanMagnitude rest
  let magnitude : Int := decimalValue digits
  let value := if isNegative then -magnitude else magnitude
  if Word.isSigned value then some (.integer value, rest) else none

/-- A number with a fraction. -/
def scanFraction : Scanner Term := fun cs => do
  let (isNegative, rest) := scanMinus cs
  let (digits, rest) ← scanMagnitude rest
  match rest with
  | '.' :: rest =>
    let places := rest.takeWhile isDigit
    if places.isEmpty then
      none
    else
      let value := Float.ofScientific (decimalValue (digits ++ places)) true places.length
      some (.float (if isNegative then -value else value), rest.dropWhile isDigit)
  | _ => none

/-- The characters up to the next quote, which has to be there. -/
def scanUntil (quote : Char) : Scanner String := fun cs => do
  let content ← before? quote cs
  some (String.ofList content, cs.drop (content.length + 1))

/-- A text in one of three kinds of quotes. There are no escapes. -/
def scanText : Scanner String
  | c :: rest => if c = '"' || c = '\'' || c = '\x60' then scanUntil c rest else none
  | [] => none

def scanBoolean : Scanner Bool := fun cs =>
  match afterWord "true" cs, afterWord "false" cs, afterWord "True" cs, afterWord "False" cs with
  | some rest, _, _, _ => some (true, rest)
  | none, some rest, _, _ => some (false, rest)
  | none, none, some rest, _ => some (true, rest)
  | none, none, none, some rest => some (false, rest)
  | none, none, none, none => none

/-! ## Paths -/

/-- A point and the name or position after it. -/
def scanPointed : Scanner Step
  | '.' :: c :: rest =>
    if isNamePart c then
      some (.key (String.ofList (c :: rest.takeWhile isNamePart)), rest.dropWhile isNamePart)
    else
      none
  | _ => none

/-- As many pointed steps as there are. -/
def scanPointedSteps : (fuel : Nat) → List Char → List Step × List Char
  | 0, cs => ([], cs)
  | fuel + 1, cs =>
    match scanPointed cs with
    | some (step, rest) =>
      let (steps, rest) := scanPointedSteps fuel rest
      (step :: steps, rest)
    | none => ([], cs)

/-- A path with pointed steps only. -/
def scanPlainPath : Scanner Path := fun cs => do
  let (head, rest) ← scanName cs
  let (steps, rest) := scanPointedSteps rest.length rest
  some ({ head, steps }, rest)

/-- A quoted key. One in backquotes names a variable, which never exists. -/
def scanQuotedKey (cs : List Char) : Option (Step × List Char) := do
  let (token, rest) ← scanText cs
  some (if cs.head? = some '\x60' then .value ("\x60" ++ token) [] else .quoted token, rest)

/-- A path with steps of any kind; `fuel` bounds their number, those of the
paths in brackets included. -/
def scanSteps : (fuel : Nat) → List Char → List Step × List Char
  | 0, cs => ([], cs)
  | fuel + 1, cs =>
    match scanPointed cs with
    | some (step, rest) =>
      let (steps, rest) := scanSteps fuel rest
      (step :: steps, rest)
    | none =>
      match cs with
      | '[' :: inner =>
        let whole := (scanWholeText inner).map fun found => (Step.key found.1, found.2)
        let path := (scanName inner).map fun found =>
          let (steps, rest) := scanSteps fuel found.2
          (Step.value found.1 steps, rest)
        match whole <|> scanQuotedKey inner <|> path with
        | some (step, ']' :: rest) =>
          let (steps, rest) := scanSteps fuel rest
          (step :: steps, rest)
        | _ => ([], cs)
      | _ => ([], cs)

def scanPath : Scanner Path := fun cs => do
  let (head, rest) ← scanName cs
  let (steps, rest) := scanSteps (rest.length + 1) rest
  some ({ head, steps }, rest)

end PromptRelay.Template
