/-!
Contract: the numbers that a machine word of 64 bits holds.

Owns:
- the bounds of words with and without a sign.

Does not own: arithmetic, which is on numbers of any size.
-/

namespace PromptRelay.Word

/-- The least number that is too large for a word without a sign. -/
def limit : Nat := 0x10000000000000000

/-- The largest number of a word without a sign. -/
def maximum : Nat := limit - 1

/-- The least number that is too large for a word with a sign. -/
def signedLimit : Int := 0x8000000000000000

/-- Whether a word with a sign holds a number. -/
def isSigned (value : Int) : Bool :=
  -signedLimit ≤ value && value < signedLimit

theorem isSigned_iff (value : Int) :
    isSigned value = true ↔ -0x8000000000000000 ≤ value ∧ value < 0x8000000000000000 := by
  rw [isSigned, signedLimit, Bool.and_eq_true, decide_eq_true_iff, decide_eq_true_iff]

/-- Whether a word without a sign holds a number. -/
def isUnsigned (value : Int) : Bool :=
  0 ≤ value && value < limit

end PromptRelay.Word
