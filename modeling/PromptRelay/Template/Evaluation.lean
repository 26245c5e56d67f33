import PromptRelay.Crash

/-!
Contract: what evaluating a part of a template comes to.

Owns:
- evaluations, which have a value, fail or crash;
- failures that something else stands in for.

Does not own: what fails, and why. A crash is never stood in for.
-/

namespace PromptRelay.Template

abbrev Evaluation (α : Type) := Except (Stop Unit) α

namespace Evaluation

def fail : Evaluation α := .error (.failed ())

def crash (crash : Crash) : Evaluation α := .error (.crashed crash)

/-- The value, if there is one; a failure otherwise. -/
def ofOption : Option α → Evaluation α
  | some value => .ok value
  | none => fail

@[simp] theorem ofOption_some (value : α) : ofOption (some value) = .ok value := rfl

/-- The value, or the one that stands in for a failure. -/
def orValue (default : α) : Evaluation α → Evaluation α
  | .error (.failed ()) => .ok default
  | evaluation => evaluation

end Evaluation

end PromptRelay.Template
