/-!
Contract: the expressions of a template.

Owns:
- paths into values;
- calls with named arguments, tests, operators and filters.

Does not own: how expressions are written and what they evaluate to.
-/

namespace PromptRelay.Template

/-- A step from a value to a part of it. -/
inductive Step where
  /-- A member of that name, or the item at that position. -/
  | key (token : String)
  /-- A member whose name is quoted. -/
  | quoted (token : String)
  /-- The member or item that the value at another path names. -/
  | value (head : String) (steps : List Step)
deriving Repr, Inhabited

/-- A variable and the steps into its value. -/
structure Path where
  head : String
  steps : List Step
deriving Repr, Inhabited

inductive Arithmetic where
  | add
  | subtract
  | multiply
  | divide
  | remainder
deriving DecidableEq, Repr

inductive Comparison where
  | equal
  | unequal
  | less
  | atMost
  | greater
  | atLeast
deriving DecidableEq, Repr

inductive Connective where
  | conjunction
  | disjunction
deriving DecidableEq, Repr

mutual

inductive Term where
  | text (value : String)
  | integer (value : Int)
  | float (value : Float)
  | boolean (value : Bool)
  /-- Texts and numbers written one after the other. -/
  | chain (parts : List Term)
  | path (path : Path)
  | call (call : Call)
  /-- A call of a routine that the template itself defines. -/
  | routine (space : String) (call : Call)
  | test (path : Path) (isNegated : Bool) (name : String) (arguments : List Expression)
  | connective (operator : Connective) (left right : Expression)
  | comparison (operator : Comparison) (left right : Expression)
  | arithmetic (operator : Arithmetic) (left right : Expression)
  | membership (isNegated : Bool) (item container : Expression)
  | list (items : List Expression)

/-- A name and named arguments. -/
inductive Call where
  | mk (name : String) (arguments : List (String × Expression))

/-- A term, the filters that its value passes through, and whether the result is
negated. -/
inductive Expression where
  | mk (term : Term) (filters : List Call) (isNegated : Bool)

end

instance : Inhabited Term := ⟨.boolean false⟩

instance : Inhabited Call := ⟨.mk "" []⟩

instance : Inhabited Expression := ⟨.mk default [] false⟩

namespace Call

def name : Call → String
  | .mk name _ => name

def arguments : Call → List (String × Expression)
  | .mk _ arguments => arguments

end Call

namespace Expression

def term : Expression → Term
  | .mk term _ _ => term

def filters : Expression → List Call
  | .mk _ filters _ => filters

def isNegated : Expression → Bool
  | .mk _ _ isNegated => isNegated

/-- A term as it stands. -/
def ofTerm (term : Term) : Expression := .mk term [] false

end Expression

end PromptRelay.Template
