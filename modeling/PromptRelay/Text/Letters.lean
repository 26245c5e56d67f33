/-!
Contract: the ASCII letters and digits of keywords, numbers and setting names.

Owns:
- the digit class and the value of decimal and hexadecimal digits;
- lower-casing that touches the letters `A` to `Z` only.

Does not own: case conversion of text in other scripts.
-/

namespace PromptRelay.Text

def isDigit (c : Char) : Bool :=
  '0' ≤ c && c ≤ '9'

def digitValue (c : Char) : Nat :=
  c.toNat - '0'.toNat

/-- The value of a hexadecimal digit in either case. -/
def hexValue? (c : Char) : Option Nat :=
  if isDigit c then some (digitValue c)
  else if 'a' ≤ c && c ≤ 'f' then some (c.toNat - 'a'.toNat + 10)
  else if 'A' ≤ c && c ≤ 'F' then some (c.toNat - 'A'.toNat + 10)
  else none

/-- `A` to `Z` become `a` to `z`; every other character stays. -/
def lowerLetter (c : Char) : Char :=
  if 'A' ≤ c && c ≤ 'Z' then Char.ofNat (c.toNat + 32) else c

def lowerLetters (cs : List Char) : List Char :=
  cs.map lowerLetter

/-- The string with its ASCII letters in lower case. -/
def lowered (s : String) : String :=
  String.ofList (lowerLetters s.toList)

end PromptRelay.Text
