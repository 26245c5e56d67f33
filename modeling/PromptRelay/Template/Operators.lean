import PromptRelay.Template.Evaluation
import PromptRelay.Template.Expression
import PromptRelay.Template.Filter.Arguments
import PromptRelay.Template.Predicate

/-!
Contract: what operators and functions give for values.

Owns:
- arithmetic on integers within 64 bits and on floats;
- order, equality and membership;
- the functions that a template may call;
- which of these crash.

Does not own: evaluating the operands.
-/

namespace PromptRelay.Template

open Json

/-! ## Arithmetic -/

/-- Integers stay integers while they fit; a result that does not fit fails. -/
def integerResult (a b result : Int) : Evaluation (Option Value) :=
  if Word.isSigned a && Word.isSigned b then
    if Word.isSigned result then .ok (some (.integer result)) else .fail
  else
    if Word.isUnsigned result then .ok (some (.integer result)) else .fail

/-- The remainder of integers. The one by zero fails; that of the least integer by
minus one is nought, but the quotient does not fit, and computing it crashes. -/
def integerRemainder (a b : Int) : Evaluation (Option Value) :=
  if b = 0 then .fail
  else if a = -Word.signedLimit && b = -1 then .crash .remainder
  else integerResult a b (a.tmod b)

/-- Whether two numbers are computed with as integers. -/
def areWhole (a b : Int) : Bool :=
  (Word.isSigned a && Word.isSigned b) || (Word.isUnsigned a && Word.isUnsigned b)

/-- A float that has to be finite. -/
def requireFinite (value : Float) : Evaluation Value :=
  match finite? value with
  | some value => .ok value
  | none => .crash .infinite

/-- A quotient is an integer if it has no fraction. -/
def quotient (left right : Float) : Option Value :=
  let result := left / right
  if result.isNaN then none
  else if result.round == result && result.isFinite then some (.integer (truncated result))
  else finite? result

/-- The result for two numbers. There is no value if it is not a number. -/
def calculate (operator : Arithmetic) (left right : Value) : Evaluation (Option Value) := do
  let a ← .ofOption (float? left)
  let b ← .ofOption (float? right)
  match operator, left, right with
  | .divide, _, _ => .ok (quotient a b)
  | .add, .integer m, .integer n =>
    if areWhole m n then integerResult m n (m + n) else (requireFinite (a + b)).map some
  | .subtract, .integer m, .integer n =>
    if areWhole m n then integerResult m n (m - n) else (requireFinite (a - b)).map some
  | .multiply, .integer m, .integer n =>
    if areWhole m n then integerResult m n (m * n) else .ok (finite? (a * b))
  | .remainder, .integer m, .integer n =>
    if areWhole m n then integerRemainder m n else .ok (finite? (remainder a b))
  | .add, _, _ => (requireFinite (a + b)).map some
  | .subtract, _, _ => (requireFinite (a - b)).map some
  | .multiply, _, _ => .ok (finite? (a * b))
  | .remainder, _, _ => .ok (finite? (remainder a b))

/-! ## Comparison -/

/-- The order of two numbers. -/
def ordered (operator : Comparison) (left right : Float) : Bool :=
  match operator with
  | .less => left < right
  | .atMost => left ≤ right
  | .greater => right < left
  | .atLeast => right ≤ left
  | .equal => left == right
  | .unequal => left != right

/-- Whether two values are equal; a number and another value cannot be told. -/
def equal? (left right : Value) : Option Bool :=
  match float? left, float? right with
  | some a, some b => some (a == b)
  | none, none => some (same left right)
  | _, _ => none

/-- Whether a container holds an item. -/
def holds? (item container : Value) : Option Bool :=
  match container with
  | .list items => some (items.any fun other => same other item)
  | .text text => do some (occurs (← text? item).toList text.toList)
  | .object members => do some ((members.lookup (← text? item)).isSome)
  | _ => none

/-! ## Functions -/

/-- From `start` in steps while below the end. -/
def countUp (start count step : Nat) : List Value :=
  (List.range count).map fun index => .integer (start + index * step : Nat)

/-- Steps of nought never get to the end, so that the list grows for ever. -/
def range (arguments : Members) : Evaluation Value := do
  let start ← .ofOption (optional count? "start" 0 arguments)
  let step ← .ofOption (optional count? "step_by" 1 arguments)
  let stop ← .ofOption (required count? "end" arguments)
  if stop < start then .fail
  else if start = stop then .ok (.list [])
  else if step = 0 then .crash .memory
  else .ok (.list (countUp start ((stop - start + step - 1) / step) step))

/-- A variable of the environment, or the default. -/
def environmentValue? (environment? : String → Option String) (arguments : Members) :
    Option Value := do
  let name ← required text? "name" arguments
  match environment? name with
  | some value => some (.text value)
  | none => arguments.lookup "default"

/-- What a function gives for its arguments. -/
abbrev Function := Members → Evaluation Value

/-- The function of this name, if there is one. -/
def function? (environment? : String → Option String) (name : String) : Option Function :=
  match name with
  | "range" => some range
  | "get_env" => some fun arguments => .ofOption (environmentValue? environment? arguments)
  | "throw" => some fun _ => .fail
  | _ => none

end PromptRelay.Template
