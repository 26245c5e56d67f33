import PromptRelay.Settings.Interpolation

/-!
Contract: the variables that the text of a settings file asks for.

Owns:
- the names of its expressions;
- that no other variable has a say in what is put in.

Does not own: the values of variables.
-/

namespace PromptRelay

/-- The names of the expressions from left to right. Inside of an expression the first
argument holds its name so far, last character first. -/
def expressionNames : Option (List Char) → List Char → List String
  | none, [] => []
  | none, '$' :: '\x7b' :: rest => expressionNames (some []) rest
  | none, _ :: rest => expressionNames none rest
  | some _, [] => []
  | some name, '\x7d' :: rest => String.ofList name.reverse :: expressionNames none rest
  | some name, c :: rest => expressionNames (some (c :: name)) rest

/-- The names of the variables that a text asks for. -/
def interpolatedNames (text : String) : List String :=
  expressionNames none text.toList

theorem replaceExpressions_congr {value? other? : String → Option String}
    (begun : Option (List Char)) (cs : List Char)
    (same : ∀ name ∈ expressionNames begun cs, value? name = other? name) :
    replaceExpressions value? begun cs = replaceExpressions other? begun cs := by
  induction begun, cs using expressionNames.induct with
  | case1 => rfl
  | case2 rest inductionHypothesis =>
      rw [expressionNames] at same
      rw [replaceExpressions, replaceExpressions, inductionHypothesis same]
  | case3 c rest notOpened inductionHypothesis =>
      rw [expressionNames] at same
      · rw [replaceExpressions, replaceExpressions, inductionHypothesis same] <;> exact notOpened
      · exact notOpened
  | case4 => rfl
  | case5 name rest inductionHypothesis =>
      rw [expressionNames, List.forall_mem_cons] at same
      rw [replaceExpressions, replaceExpressions, same.1, inductionHypothesis same.2]
  | case6 name c rest notClosed inductionHypothesis =>
      rw [expressionNames] at same
      · rw [replaceExpressions, replaceExpressions, inductionHypothesis same] <;> exact notClosed
      · exact notClosed

/-- Only the variables that a text asks for matter to it. -/
theorem interpolate_congr {value? other? : String → Option String} {text : String}
    (same : ∀ name ∈ interpolatedNames text, value? name = other? name) :
    interpolate value? text = interpolate other? text := by
  rw [interpolate, interpolate, replaceExpressions_congr none text.toList same]

end PromptRelay
