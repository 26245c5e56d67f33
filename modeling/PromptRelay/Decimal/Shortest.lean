/-!
Contract: the decimal with the fewest digits that reads back as a given double.

Owns:
- decoding a double into an integer and a power of two;
- the interval of numbers that round to it;
- the shortest decimal in that interval, the nearest one if there are several.

Does not own: how digits and exponent are laid out as text.
-/

namespace PromptRelay.Decimal

/-- A positive finite double as `significand * 2 ^ exponent`. -/
structure Binary where
  significand : Nat
  exponent : Int
deriving DecidableEq, Repr

/-- The least significand of a normal double, which has 53 bits. -/
def leastNormal : Nat := 0x10000000000000

def isNegative (value : Float) : Bool :=
  0x8000000000000000 ≤ value.toBits.toNat

/-- The decoded magnitude of a finite double. -/
def magnitude (value : Float) : Binary :=
  let bits := value.toBits.toNat
  let fraction : Nat := bits % leastNormal
  let field : Nat := bits / leastNormal % 0x800
  if field = 0 then
    { significand := fraction, exponent := -1074 }
  else
    { significand := leastNormal + fraction, exponent := (field : Int) - 1075 }

/-- A number `digits * 10 ^ exponent`. -/
structure Scientific where
  digits : Nat
  exponent : Int
deriving DecidableEq, Repr

/-- The numbers that round to a double, as integers of one decimal scale. The
ends belong to it if the significand is even. -/
structure Interval where
  low : Nat
  value : Nat
  high : Nat
  isClosed : Bool
  scale : Int
deriving DecidableEq, Repr

/-- Everything is counted in quarters of the last binary place, so that half a
place, and the narrower half below a power of two, are whole numbers. -/
def Binary.interval (binary : Binary) : Interval :=
  let isNarrowBelow := binary.significand = leastNormal && -1074 < binary.exponent
  let quarters := 4 * binary.significand
  let exponent := binary.exponent - 2
  -- Halves become tenths when they are multiplied by five.
  let unit := if 0 ≤ exponent then Nat.pow 2 exponent.toNat else Nat.pow 5 (-exponent).toNat
  { low := (quarters - (if isNarrowBelow then 1 else 2)) * unit
    value := quarters * unit
    high := (quarters + 2) * unit
    isClosed := binary.significand % 2 = 0
    scale := if 0 ≤ exponent then 0 else exponent }

def Interval.contains (interval : Interval) (n : Nat) : Bool :=
  if interval.isClosed then interval.low ≤ n && n ≤ interval.high
  else interval.low < n && n < interval.high

/-- How many decimal digits a number has; zero has one. -/
def digitCount (n : Nat) : Nat :=
  (Nat.toDigits 10 n).length

/-- The neighbour of the value on the grid of this unit that lies in the
interval, the nearer one if both do. -/
def Interval.neighbour? (interval : Interval) (unit : Nat) : Option Nat :=
  let below := interval.value / unit * unit
  let above := below + unit
  match interval.contains below, interval.contains above with
  | true, true =>
    let isAboveNearer := above - interval.value < interval.value - below
    let isTie := above - interval.value = interval.value - below
    some (if isAboveNearer || (isTie && below / unit % 2 = 1) then above else below)
  | true, false => some below
  | false, true => some above
  | false, false => none

/-- Tries grids from the given unit down to single steps; `places` is the power
of ten of the unit. -/
def Interval.coarsest (interval : Interval) : (places : Nat) → Nat
  | 0 => interval.value
  | places + 1 =>
    match interval.neighbour? (Nat.pow 10 (places + 1)) with
    | some found => found
    | none => interval.coarsest places

/-- Moves zeros at the end of the digits into the exponent. -/
def stripZeros : (fuel : Nat) → Scientific → Scientific
  | 0, number => number
  | fuel + 1, number =>
    if number.digits % 10 = 0 && number.digits ≠ 0 then
      stripZeros fuel { digits := number.digits / 10, exponent := number.exponent + 1 }
    else
      number

/-- The shortest decimal that reads back as this positive double. -/
def Binary.shortest (binary : Binary) : Scientific :=
  let interval := binary.interval
  let count := digitCount interval.value
  stripZeros (count + 1)
    { digits := interval.coarsest count, exponent := interval.scale }

end PromptRelay.Decimal
