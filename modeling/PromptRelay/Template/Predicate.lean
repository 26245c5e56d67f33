import PromptRelay.Template.Filter.Arguments
import PromptRelay.Text.Pattern.Reader

/-!
Contract: the tests that expressions may put a variable to.

Owns:
- whether a variable is defined, and of which kind it is;
- odd and even numbers and divisors;
- what a text begins with, ends with and contains, and which pattern it matches;
- which tests there are.

Does not own: looking up the variable.
-/

namespace PromptRelay.Template

open Json

/-- The remainder of a division of doubles, with the sign of the dividend: both
are counted in the smaller one's last binary place. -/
def remainder (dividend divisor : Float) : Float :=
  if dividend.isNaN || divisor.isNaN || dividend.isInf || divisor == 0.0 then 0.0 / 0.0
  else if divisor.isInf then dividend
  else
    let a := Decimal.magnitude dividend
    let b := Decimal.magnitude divisor
    let place := min a.exponent b.exponent
    let left := a.significand * Nat.pow 2 (a.exponent - place).toNat
    let right := b.significand * Nat.pow 2 (b.exponent - place).toNat
    let result := Float.scaleB (Float.ofNat (left % right)) place
    if Decimal.isNegative dividend then -result else result

/-- Whether a pattern occurs in a text. -/
def occurs (pattern : List Char) : List Char → Bool
  | [] => pattern.isEmpty
  | c :: rest => pattern.isPrefixOf (c :: rest) || occurs pattern rest

/-! ## By name -/

/-- What a test tells of a variable, which may be missing, for its arguments. -/
abbrev Test := List Value → Option Value → Option Bool

/-- A test without arguments of a variable that is there. -/
def Test.plain (holds? : Value → Option Bool) : Test
  | [], some value => holds? value
  | _, _ => none

/-- A test with one argument of a variable that is there. -/
def Test.withOne (holds? : (argument value : Value) → Option Bool) : Test
  | [argument], some value => holds? argument value
  | _, _ => none

/-- A test that compares two texts. -/
def Test.ofTexts (holds? : (argument text : List Char) → Option Bool) : Test :=
  .withOne fun argument value => do
    let text ← text? value
    holds? (← text? argument).toList text.toList

def contains? (item : Value) : Value → Option Bool
  | .text text => do some (occurs (← text? item).toList text.toList)
  | .list items => some (items.any (same · item))
  | .object members => do some ((members.lookup (← text? item)).isSome)
  | _ => none

/-- The test of this name, if there is one. -/
def test? (name : String) : Option Test :=
  match name with
  | "defined" => some fun arguments value => if arguments.isEmpty then some value.isSome else none
  | "undefined" => some fun arguments value => if arguments.isEmpty then some value.isNone else none
  | "string" => some (.plain fun value => some (text? value).isSome)
  | "number" => some (.plain fun value => some (isNumber value))
  | "odd" => some (.plain fun value => do some (remainder (← float? value) 2.0 != 0.0))
  | "even" => some (.plain fun value => do some (remainder (← float? value) 2.0 == 0.0))
  | "divisibleby" => some (.withOne fun divisor value => do
    some (remainder (← float? value) (← float? divisor) == 0.0))
  | "iterable" =>
    some (.plain fun value => some ((items? value).isSome || (members? value).isSome))
  | "object" => some (.plain fun value => some (members? value).isSome)
  | "starting_with" => some (.ofTexts fun start text => some (start.isPrefixOf text))
  | "ending_with" => some (.ofTexts fun ending text => some (ending.isSuffixOf text))
  | "matching" => some (.ofTexts fun pattern text => do
    some ((← Text.Pattern.ofText? pattern).occursIn text))
  | "containing" => some (.withOne contains?)
  | _ => none

end PromptRelay.Template
