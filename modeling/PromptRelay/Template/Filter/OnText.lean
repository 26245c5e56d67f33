import PromptRelay.Template.Filter.Arguments
import PromptRelay.Text.Blank
import PromptRelay.Text.Case
import PromptRelay.Text.Visible
import PromptRelay.Text.Word

/-!
Contract: the filters on text.

Owns:
- case, trimming, cutting, replacing and splitting;
- escaping for markup and for quoted strings, and removing markup;
- numbers read from text.

Does not own: filters on lists and numbers.
-/

namespace PromptRelay.Template

open Json Text

/-! ## Pieces of text -/

/-- Puts `replacement` in place of each occurrence of the pattern, left to right. -/
def replaceEach (first : Char) (more replacement : List Char) : List Char → List Char
  | [] => []
  | c :: rest =>
    if (first :: more).isPrefixOf (c :: rest) then
      replacement ++ replaceEach first more replacement (rest.drop more.length)
    else
      c :: replaceEach first more replacement rest
termination_by cs => cs.length
decreasing_by all_goals (simp only [List.length_drop, List.length_cons]; omega)

/-- As `replaceEach`; the empty pattern occurs before each character and at the
end. -/
def replaceAll (pattern replacement cs : List Char) : List Char :=
  match pattern with
  | [] => replacement ++ cs.flatMap fun c => c :: replacement
  | first :: more => replaceEach first more replacement cs

/-- The pieces between occurrences of the pattern, `piece` being the current one
with its last character first. -/
def piecesFrom (first : Char) (more : List Char) (piece : List Char) :
    List Char → List (List Char)
  | [] => [piece.reverse]
  | c :: rest =>
    if (first :: more).isPrefixOf (c :: rest) then
      piece.reverse :: piecesFrom first more [] (rest.drop more.length)
    else
      piecesFrom first more (c :: piece) rest
termination_by cs => cs.length
decreasing_by all_goals (simp only [List.length_drop, List.length_cons]; omega)

/-- The pieces between occurrences of the pattern; the empty pattern occurs
between all characters and at both ends. -/
def pieces (pattern cs : List Char) : List (List Char) :=
  match pattern with
  | [] => [] :: cs.map (fun c => [c]) ++ [[]]
  | first :: more => piecesFrom first more [] cs

/-- Drops the pattern from the front as often as it stands there. -/
def dropLeading (pattern : List Char) : (fuel : Nat) → List Char → List Char
  | 0, cs => cs
  | fuel + 1, cs =>
    match after? pattern cs with
    | some rest => if pattern.isEmpty then cs else dropLeading pattern fuel rest
    | none => cs

def trimPattern (pattern cs : List Char) : List Char :=
  dropLeading pattern (cs.length + 1) cs

def trimPatternEnd (pattern cs : List Char) : List Char :=
  (trimPattern pattern.reverse cs.reverse).reverse

/-- How many runs of other than blank characters there are. -/
def wordCount : (isInWord : Bool) → List Char → Nat
  | _, [] => 0
  | isInWord, c :: rest =>
    if isBlank c then wordCount false rest
    else (if isInWord then 0 else 1) + wordCount true rest

/-! ## Title case -/

def isTitlePart (c : Char) : Bool :=
  isWordChar c || c == '\''

/-- The most characters of `run` after which a word edge lies. -/
def longestWord (run : List Char) (next : Option Char) : (count : Nat) → Option Nat
  | 0 => none
  | count + 1 =>
    if isWordEdge run[count]? (run[count + 1]? <|> next) then some (count + 1)
    else longestWord run next count

/-- Each word with its first character in upper case and the others in lower
case; `fuel` bounds the number of characters. -/
def titleFrom : (fuel : Nat) → (before : Option Char) → List Char → List Char
  | 0, _, cs => cs
  | _, _, [] => []
  | fuel + 1, before, c :: rest =>
    let run := (c :: rest).takeWhile isTitlePart
    let next := ((c :: rest).dropWhile isTitlePart).head?
    let found := if isTitlePart c && isWordEdge before (some c) then
        longestWord run next run.length else none
    match found with
    | some count =>
      upperCase c ++ lowerAfter [] (run.take count).tail ++
        titleFrom fuel run[count - 1]? ((c :: rest).drop count)
    | none => c :: titleFrom fuel (some c) rest

def inTitleCase (cs : List Char) : List Char :=
  titleFrom (cs.length + 1) none cs

/-! ## Markup -/

def escapeMarkup (apostrophe : String) (escapesSlash : Bool) (c : Char) : List Char :=
  if c = '&' then "&amp;".toList
  else if c = '<' then "&lt;".toList
  else if c = '>' then "&gt;".toList
  else if c = '"' then "&quot;".toList
  else if c = '\'' then apostrophe.toList
  else if c = '/' && escapesSlash then "&#x2F;".toList
  else [c]

def escapeQuotes (c : Char) : List Char :=
  if c = '\\' || c = '"' || c = '\'' then ['\\', c] else [c]

/-- What follows a comment on one line, after its opening mark. -/
def afterComment : List Char → Option (List Char)
  | [] => none
  | '-' :: '-' :: '>' :: rest => some rest
  | '\n' :: _ => none
  | _ :: rest => afterComment rest

/-- What follows the next closing bracket. -/
def afterTag : List Char → Option (List Char)
  | [] => none
  | '>' :: rest => some rest
  | _ :: rest => afterTag rest

/-- Removes comments and tags; `fuel` bounds the number of characters. -/
def stripTags : (fuel : Nat) → List Char → List Char
  | 0, cs => cs
  | _, [] => []
  | fuel + 1, '<' :: rest =>
    let comment := (after? "!--".toList rest).bind afterComment
    match comment <|> afterTag rest with
    | some rest => stripTags fuel rest
    | none => '<' :: stripTags fuel rest
  | fuel + 1, c :: rest => c :: stripTags fuel rest

/-- Removes the blanks between a closing and an opening bracket. -/
def closeGaps : (fuel : Nat) → List Char → List Char
  | 0, cs => cs
  | _, [] => []
  | fuel + 1, '>' :: rest =>
    match rest.takeWhile isBlank, rest.dropWhile isBlank with
    | _ :: _, '<' :: rest => '>' :: '<' :: closeGaps fuel rest
    | _, _ => '>' :: closeGaps fuel rest
  | fuel + 1, c :: rest => c :: closeGaps fuel rest

/-! ## Indenting -/

def indentLine (margin : List Char) (indentsBlank : Bool) (line : List Char) : List Char :=
  if indentsBlank || line.any (fun c => !isBlank c) then margin ++ line else line

def indentLines (margin : List Char) (indentsFirst indentsBlank : Bool) :
    List (List Char) → List Char
  | [] => []
  | line :: more =>
    (if indentsFirst then margin else []) ++ line ++
      more.flatMap fun line => '\n' :: indentLine margin indentsBlank line

/-! ## Numbers in text -/

/-- The value of a digit or a letter of either case as a digit. -/
def digit? (c : Char) : Option Nat :=
  if isDigit c then some (digitValue c)
  else if 'a' ≤ c && c ≤ 'z' then some (c.toNat - 'a'.toNat + 10)
  else if 'A' ≤ c && c ≤ 'Z' then some (c.toNat - 'A'.toNat + 10)
  else none

/-- A signed integer of 64 bits in the given base. -/
def readInteger? (base : Nat) (cs : List Char) : Option Int := do
  let (isNegative, body) := match cs with
    | '-' :: rest => (true, rest)
    | '+' :: rest => (false, rest)
    | rest => (false, rest)
  let digits ← body.mapM digit?
  if digits.isEmpty || digits.any (base ≤ ·) then
    none
  else
    let magnitude : Int := (digits.foldl (fun value digit => base * value + digit) 0 : Nat)
    let value := if isNegative then -magnitude else magnitude
    if Word.isSigned value then some value else none

/-- The exponent of a number after its letter. -/
def readExponent? (cs : List Char) : Option Int :=
  let (isNegative, digits) := match cs with
    | '-' :: rest => (true, rest)
    | '+' :: rest => (false, rest)
    | rest => (false, rest)
  if isNumeral digits then
    some (if isNegative then -(decimalValue digits : Int) else decimalValue digits)
  else
    none

/-- The double nearest to `digits * 10 ^ exponent`. -/
def doubleOf (digits : List Char) (exponent : Int) : Float :=
  let value := decimalValue digits
  if value = 0 then 0.0
  else if 400 < (digits.dropWhile (· == '0')).length + exponent then 1.0 / 0.0
  else if (digits.dropWhile (· == '0')).length + exponent < -400 then 0.0
  else Float.ofScientific value (exponent < 0) exponent.natAbs

/-- A decimal number with an optional sign, fraction and exponent, or a word for
what is not finite. -/
def readFloat? (cs : List Char) : Option Float := do
  let (isNegative, body) := match cs with
    | '-' :: rest => (true, rest)
    | '+' :: rest => (false, rest)
    | rest => (false, rest)
  let word := lowered (String.ofList body)
  let magnitude ←
    if word = "inf" || word = "infinity" then some (1.0 / 0.0)
    else if word = "nan" then some (0.0 / 0.0)
    else do
      let whole := body.takeWhile isDigit
      let (fraction, rest) := match body.dropWhile isDigit with
        | '.' :: rest => (rest.takeWhile isDigit, rest.dropWhile isDigit)
        | rest => ([], rest)
      let exponent ← match rest with
        | [] => some 0
        | letter :: rest => if letter = 'e' || letter = 'E' then readExponent? rest else none
      if whole.isEmpty && fraction.isEmpty then none
      else some (doubleOf (whole ++ fraction) (exponent - fraction.length))
  some (if isNegative then -magnitude else magnitude)

/-- What marks the base of a number. -/
def baseMark (base : Nat) : List Char :=
  if base = 2 then ['0', 'b'] else if base = 8 then ['0', 'o']
  else if base = 16 then ['0', 'x'] else []

/-- The integer that a text spells in a base, or the integer part of the number
with a point that it spells, else the default. -/
def integerOf (base : Nat) (default : Int) (text : String) : Int :=
  let cs := trimPattern (baseMark base) (trim text.toList)
  match readInteger? base cs with
  | some value => value
  | none => if cs.contains '.' then ((readFloat? cs).map truncated).getD default else default

/-! ## The filters -/

def chars (cs : List Char) : Value := .text (String.ofList cs)

/-- A filter without arguments that gives a text. -/
def onChars (change : List Char → List Char) : Members → String → Option Value :=
  fun _ text => some (chars (change text.toList))

/-- A filter that trims a text of the pattern it is given. -/
def trimming (trim : List Char → List Char → List Char) : Members → String → Option Value :=
  fun arguments text => do
    some (chars (trim (← required text? "pat" arguments).toList text.toList))

def truncate? (arguments : Members) (text : String) : Option Value := do
  let length ← optional count? "length" 255 arguments
  let ending ← optional text? "end" "…" arguments
  let shown := visible text.toList
  if shown.length ≤ length then some (.text text)
  else some (chars ((shown.take length).flatten ++ ending.toList))

def replace? (arguments : Members) (text : String) : Option Value := do
  let pattern ← required text? "from" arguments
  let replacement ← required text? "to" arguments
  some (chars (replaceAll pattern.toList replacement.toList text.toList))

def capitalized : List Char → List Char
  | [] => []
  | c :: rest => upperCase c ++ lowerAfter [] rest

def breaksAsMarkup (cs : List Char) : List Char :=
  replaceAll ['\n'] "<br>".toList (replaceAll ['\r', '\n'] "<br>".toList cs)

def indent? (arguments : Members) (text : String) : Option Value := do
  let margin ← optional text? "prefix" "    " arguments
  let indentsFirst ← optional switch? "first" false arguments
  let indentsBlank ← optional switch? "blank" false arguments
  some (chars (indentLines margin.toList indentsFirst indentsBlank (lines text.toList)))

def split? (arguments : Members) (text : String) : Option Value := do
  some (.list ((pieces (← required text? "pat" arguments).toList text.toList).map chars))

/-- The filter of this name that takes text, and gives text or a number or a list. -/
def textFilter? (name : String) : Option (Members → String → Option Value) :=
  match name with
  | "upper" => some fun _ text => some (.text (inUpperCase text))
  | "lower" => some fun _ text => some (.text (inLowerCase text))
  | "trim" => some (onChars trim)
  | "trim_start" => some (onChars trimStart)
  | "trim_end" => some (onChars trimEnd)
  | "trim_start_matches" => some (trimming trimPattern)
  | "trim_end_matches" => some (trimming trimPatternEnd)
  | "truncate" => some truncate?
  | "wordcount" => some fun _ text => some (.integer (wordCount false text.toList))
  | "replace" => some replace?
  | "capitalize" => some (onChars capitalized)
  | "title" => some (onChars inTitleCase)
  | "linebreaksbr" => some (onChars breaksAsMarkup)
  | "indent" => some indent?
  | "striptags" => some (onChars fun cs => stripTags cs.length cs)
  | "spaceless" => some (onChars fun cs => closeGaps cs.length cs)
  | "escape" => some (onChars (List.flatMap (escapeMarkup "&#x27;" true)))
  | "escape_xml" => some (onChars (List.flatMap (escapeMarkup "&apos;" false)))
  | "addslashes" => some (onChars (List.flatMap escapeQuotes))
  | "split" => some split?
  | _ => none

end PromptRelay.Template
