import PromptRelay.Text.Letters

/-!
Contract: natural numbers written in decimal and bounded by a machine word.

Owns:
- the value of a run of decimal digits, of any length and with any number of
  leading zeros;
- reading a whole text as a number up to a bound, with an optional plus sign.

Does not own: signed indices and the numbers of the document formats.
-/

namespace PromptRelay.Text

/-- The value of a digit list, most significant digit first. -/
def decimalValue (digits : List Char) : Nat :=
  digits.foldl (fun value digit => 10 * value + digitValue digit) 0

/-- One or more digits and nothing else. -/
def isNumeral (cs : List Char) : Bool :=
  !cs.isEmpty && cs.all isDigit

/-- A number with one more digit, as long as it does not exceed `bound`. -/
def pushDigit? (bound value : Nat) (digit : Char) : Option Nat :=
  let longer := 10 * value + digitValue digit
  if longer ≤ bound then some longer else none

/-- Reads `+?D+` when its value does not exceed `bound`, which is checked digit by digit. -/
def readNatural? (bound : Nat) (cs : List Char) : Option Nat :=
  let digits := match cs with
    | '+' :: rest => rest
    | rest => rest
  if isNumeral digits then digits.foldlM (pushDigit? bound) 0 else none

end PromptRelay.Text
