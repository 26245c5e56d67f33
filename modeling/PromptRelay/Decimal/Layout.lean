import PromptRelay.Decimal.Shortest

/-!
Contract: doubles as text.

Owns:
- the plain layout, which writes every place and never an exponent;
- the scientific layout, which keeps a fraction and turns to an exponent for
  numbers of more than sixteen places and for small fractions.

Does not own: the choice of digits.
-/

namespace PromptRelay.Decimal

def zeros (count : Nat) : List Char :=
  List.replicate count '0'

/-- Digits with a point after the first `places` of them. -/
def pointed (digits : List Char) (places : Nat) : List Char :=
  digits.take places ++ '.' :: digits.drop places

/-- The places of a number with no exponent. -/
def plainPlaces (number : Scientific) : List Char :=
  let digits := Nat.toDigits 10 number.digits
  if 0 ≤ number.exponent then
    digits ++ zeros number.exponent.toNat
  else
    let size : Int := digits.length + number.exponent
    if 0 < size then pointed digits size.toNat
    else '0' :: '.' :: (zeros (-size).toNat ++ digits)

/-- The places of a number with a fraction or an exponent. -/
def scientificPlaces (number : Scientific) : List Char :=
  let digits := Nat.toDigits 10 number.digits
  let size : Int := digits.length + number.exponent
  if 0 ≤ number.exponent && size ≤ 16 then
    digits ++ zeros number.exponent.toNat ++ ['.', '0']
  else if -5 < size && size ≤ 16 then
    plainPlaces number
  else
    let lead := if digits.length = 1 then digits else pointed digits 1
    lead ++ 'e' :: (toString (size - 1)).toList

def signed (value : Float) (places : List Char) : List Char :=
  if isNegative value then '-' :: places else places

/-- The plain layout of a finite double: `-0`, `2.5`, `100`. -/
def plain (value : Float) : List Char :=
  let binary := magnitude value
  signed value (if binary.significand = 0 then ['0'] else plainPlaces binary.shortest)

/-- The scientific layout of a finite double: `-0.0`, `2.5`, `1e100`. -/
def scientific (value : Float) : List Char :=
  let binary := magnitude value
  signed value
    (if binary.significand = 0 then ['0', '.', '0'] else scientificPlaces binary.shortest)

end PromptRelay.Decimal
