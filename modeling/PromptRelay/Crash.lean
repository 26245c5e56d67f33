/-!
Contract: crashes, which bring the process down whatever it is at.

Owns:
- why the process crashes, and the exit code that this leaves;
- why a computation stops: it fails with an error, or crashes.

Does not own: which computations crash. Nothing catches a crash: whatever the
computation is part of crashes as well.
-/

namespace PromptRelay

inductive Crash where
  /-- Room is asked for more items than any memory holds. -/
  | capacity
  /-- The remainder of the least integer by minus one is asked for. -/
  | remainder
  /-- A float has to be finite and is not. -/
  | infinite
  /-- Numerals are read in a base that has none. -/
  | base
  /-- Calls nest deeper than the stack holds. -/
  | stack
  /-- A list grows without end. -/
  | memory
deriving DecidableEq, Repr

namespace Crash

def message : Crash → String
  | .capacity => "capacity overflow"
  | .remainder => "attempt to calculate the remainder with overflow"
  | .infinite => "called `Option::unwrap()` on a `None` value"
  | .base => "from_ascii_radix_int: must lie in the range `[2, 36]`"
  | .stack => "stack overflow"
  | .memory => "memory allocation failed"

/-- A panic unwinds the process; a stack or a memory that is used up aborts it. -/
def exitCode : Crash → Nat
  | .capacity | .remainder | .infinite | .base => 101
  | .stack | .memory => 134

end Crash

/-- Why a computation has no value. -/
inductive Stop (ε : Type) where
  | failed (error : ε)
  | crashed (crash : Crash)
deriving DecidableEq, Repr

/-- Puts an error in other terms. -/
def Stop.map (f : ε → ε') : Stop ε → Stop ε'
  | .failed error => .failed (f error)
  | .crashed crash => .crashed crash

end PromptRelay
