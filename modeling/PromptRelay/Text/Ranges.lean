/-!
Contract: classes of characters given as ranges of code points.

Owns:
- membership of a code point in a list of ranges.

Does not own: the lists, which stand with the classes they describe.
-/

namespace PromptRelay.Text

/-- Both ends of a range belong to it. -/
def isWithin (ranges : List (Nat × Nat)) (n : Nat) : Bool :=
  ranges.any fun range => range.1 ≤ n && n ≤ range.2

end PromptRelay.Text
