import PromptRelay.Template.Values

/-!
Contract: the named arguments of filters, tests and functions.

Owns:
- reading a value as text, as a count, as a number or as a switch;
- arguments that have to be there and those with a default.

Does not own: which arguments there are. An argument of the wrong kind fails,
also where there is a default.
-/

namespace PromptRelay.Template

open Json

def text? : Value → Option String
  | .text value => some value
  | _ => none

def switch? : Value → Option Bool
  | .boolean value => some value
  | _ => none

def items? : Value → Option (List Value)
  | .list items => some items
  | _ => none

def members? : Value → Option Members
  | .object members => some members
  | _ => none

/-- An integer within bounds. -/
def integerWithin? (low high : Int) : Value → Option Int
  | .integer value => if low ≤ value && value ≤ high then some value else none
  | _ => none

def count? (value : Value) : Option Nat :=
  (integerWithin? 0 Word.maximum value).map Int.toNat

def required (read : Value → Option α) (name : String) (arguments : Members) : Option α :=
  (arguments.lookup name).bind read

def optional (read : Value → Option α) (name : String) (default : α) (arguments : Members) :
    Option α :=
  match arguments.lookup name with
  | some value => read value
  | none => some default

end PromptRelay.Template
