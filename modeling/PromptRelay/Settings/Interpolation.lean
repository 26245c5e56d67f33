/-!
Contract: variables in the text of a settings file.

Owns:
- the one pass that puts the value of a variable in place of each expression: a
  dollar sign and a name in braces;
- what is wrong with a text in which that fails.

Does not own: where the values come from. What is put in is not looked at again.
-/

namespace PromptRelay

/-- Why expressions could not be replaced. -/
inductive InterpolationError where
  /-- The variable of this name has no value that is text. -/
  | missing (name : String)
  /-- An expression has no closing brace. -/
  | unterminated
deriving DecidableEq, Repr

/-- Replaces expressions from left to right. Inside of an expression the first
argument holds its name so far, last character first. -/
def replaceExpressions (value? : String → Option String) :
    Option (List Char) → List Char → Except InterpolationError (List Char)
  | none, [] => .ok []
  | none, '$' :: '\x7b' :: rest => replaceExpressions value? (some []) rest
  | none, c :: rest => (replaceExpressions value? none rest).map (c :: ·)
  | some _, [] => .error .unterminated
  | some name, '\x7d' :: rest =>
    let name := String.ofList name.reverse
    match value? name with
    | none => .error (.missing name)
    | some value => (replaceExpressions value? none rest).map (value.toList ++ ·)
  | some name, c :: rest => replaceExpressions value? (some (c :: name)) rest

/-- The text with the value of its variable in place of each expression. -/
def interpolate (value? : String → Option String) (text : String) :
    Except InterpolationError String :=
  (replaceExpressions value? none text.toList).map String.ofList

end PromptRelay
