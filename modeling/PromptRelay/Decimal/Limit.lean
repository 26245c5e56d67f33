/-!
Contract: decimals that are too large for a finite double.

Owns:
- the least number that rounds to no finite double;
- whether digits and an exponent reach it.

Does not own: how digits and exponent are written.
-/

namespace PromptRelay.Decimal

/-- Half a last place above the largest finite double. -/
def doubleLimit : Nat := Nat.pow 2 1024 - Nat.pow 2 970

/-- The value of a digit list, most significant digit first. -/
def digitsValue (digits : List Nat) : Nat :=
  digits.foldl (fun value digit => 10 * value + digit) 0

/-- Whether digits, read as an integer and multiplied by a power of ten, are too
large. The limit has 309 digits, so most cases need no arithmetic. -/
def isTooLarge (digits : List Nat) (exponent : Int) : Bool :=
  let digits := digits.dropWhile (· == 0)
  let size := digits.length + exponent
  if digits.isEmpty || size < 309 then false
  else if 309 < size then true
  else if 0 ≤ exponent then doubleLimit ≤ digitsValue digits * Nat.pow 10 exponent.toNat
  else doubleLimit * Nat.pow 10 (-exponent).toNat ≤ digitsValue digits

end PromptRelay.Decimal
