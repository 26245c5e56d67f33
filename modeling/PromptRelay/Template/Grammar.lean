import PromptRelay.Template.Scanner

/-!
Contract: how expressions are written.

Owns:
- logic over comparisons over arithmetic over terms, with filters in between;
- calls, tests, routines and lists;
- which operators bind tighter.

Does not own: the tags around expressions.

Alternatives are tried in a fixed order and the first that matches is kept, also
where a later one would lead further. `fuel` bounds nesting and repetition.
-/

namespace PromptRelay.Template

open Text

/-! ## Operators -/

/-- Operands with operators between them. Tight operators are applied first, and
of equal ones the left one. `open?` holds the loose operator that waits for its
right operand. -/
def applyOperators (isTight : ω → Bool) (apply : ω → α → α → α) (open? : Option (α × ω))
    (latest : α) : List (ω × α) → α
  | [] =>
    match open? with
    | some (left, operator) => apply operator left latest
    | none => latest
  | (operator, operand) :: rest =>
    if isTight operator then
      applyOperators isTight apply open? (apply operator latest operand) rest
    else
      let left := match open? with
        | some (left, waiting) => apply waiting left latest
        | none => latest
      applyOperators isTight apply (some (left, operator)) operand rest

def scanArithmeticOperator : Scanner Arithmetic
  | '+' :: rest => some (.add, rest)
  | '-' :: rest => some (.subtract, rest)
  | '*' :: rest => some (.multiply, rest)
  | '/' :: rest => some (.divide, rest)
  | '%' :: rest => some (.remainder, rest)
  | _ => none

def isProduct : Arithmetic → Bool
  | .multiply | .divide | .remainder => true
  | .add | .subtract => false

def scanComparisonOperator : Scanner Comparison
  | '<' :: '=' :: rest => some (.atMost, rest)
  | '>' :: '=' :: rest => some (.atLeast, rest)
  | '>' :: rest => some (.greater, rest)
  | '<' :: rest => some (.less, rest)
  | '=' :: '=' :: rest => some (.equal, rest)
  | '!' :: '=' :: rest => some (.unequal, rest)
  | _ => none

/-- What follows a word and one layout character. -/
def afterSpacedWord (word : String) (cs : List Char) : Option (List Char) :=
  match afterWord word cs with
  | some (c :: rest) => if isLayout c then some rest else none
  | _ => none

def scanConnective : Scanner Connective := fun cs =>
  match afterSpacedWord "or" cs, afterSpacedWord "and" cs with
  | some rest, _ => some (.disjunction, rest)
  | none, some rest => some (.conjunction, rest)
  | none, none => none

/-- Whether a negation stands here, and what follows. -/
def scanNegation (cs : List Char) : Bool × List Char :=
  match afterSpacedWord "not" cs with
  | some rest => (true, rest)
  | none => (false, cs)

def negateIf (isNegated : Bool) (expression : Expression) : Expression :=
  .mk expression.term expression.filters isNegated

/-- Of arguments with one name the last one counts. -/
def lastOfEach : List (String × Expression) → List (String × Expression)
  | [] => []
  | argument :: rest =>
    if rest.any (·.1 == argument.1) then lastOfEach rest else argument :: lastOfEach rest

/-! ## Expressions -/

mutual

/-- Logic values with `and` and `or` between them. -/
def scanLogic : (fuel : Nat) → Scanner Expression
  | 0, _ => none
  | fuel + 1, cs => do
    let (first, rest) ← scanLogicValue fuel cs
    let (more, rest) := scanConnected fuel rest
    let connect operator left right := Expression.ofTerm (.connective operator left right)
    some (applyOperators (· == .conjunction) connect none first more, rest)

def scanConnected : (fuel : Nat) → List Char → List (Connective × Expression) × List Char
  | 0, cs => ([], cs)
  | fuel + 1, cs =>
    let found := do
      let (operator, rest) ← scanConnective (skipLayout cs)
      let (operand, rest) ← scanLogicValue fuel (skipLayout rest)
      some ((operator, operand), rest)
    match found with
    | some (pair, rest) =>
      let (pairs, rest) := scanConnected fuel rest
      (pair :: pairs, rest)
    | none => ([], cs)

/-- A membership or a comparison, perhaps negated, or logic in brackets. Brackets
drop the negation of what is in them. -/
def scanLogicValue : (fuel : Nat) → Scanner Expression
  | 0, _ => none
  | fuel + 1, cs =>
    let plain := do
      let (isNegated, rest) := scanNegation cs
      let start := if isNegated then skipLayout rest else rest
      let (expression, rest) ← scanMembership fuel start <|> scanComparison fuel start
      some (negateIf isNegated expression, rest)
    let bracketed := match cs with
      | '(' :: rest => do
        let (expression, rest) ← scanLogic fuel (skipLayout rest)
        match skipLayout rest with
        | ')' :: rest => some (negateIf false expression, rest)
        | _ => none
      | _ => none
    plain <|> bracketed

def scanMembership : (fuel : Nat) → Scanner Expression
  | 0, _ => none
  | fuel + 1, cs => do
    let (item, rest) ← scanTextual fuel cs <|> scanFiltered fuel cs
    let (isNegated, rest) := scanNegation (skipLayout rest)
    let rest ← afterWord "in" (skipLayout rest)
    let start := skipLayout rest
    let path := (scanPath start).map fun found => (Expression.ofTerm (.path found.1), found.2)
    let (container, rest) ← scanTextual fuel start <|> scanFilteredList fuel start <|> path
    some (.ofTerm (.membership isNegated item container), rest)

def scanComparison : (fuel : Nat) → Scanner Expression
  | 0, _ => none
  | fuel + 1, cs => do
    let side (cs : List Char) := scanTextual fuel cs <|> scanSum fuel cs
    let (left, rest) ← side cs
    let compared := do
      let (operator, rest) ← scanComparisonOperator (skipLayout rest)
      let (right, rest) ← side (skipLayout rest)
      some (Expression.ofTerm (.comparison operator left right), rest)
    some (compared.getD (left, rest))

/-- Filtered values with arithmetic operators between them. -/
def scanSum : (fuel : Nat) → Scanner Expression
  | 0, _ => none
  | fuel + 1, cs => do
    let (first, rest) ← scanFiltered fuel cs
    let (more, rest) := scanAddends fuel rest
    let combine operator left right := Expression.ofTerm (.arithmetic operator left right)
    some (applyOperators isProduct combine none first more, rest)

def scanAddends : (fuel : Nat) → List Char → List (Arithmetic × Expression) × List Char
  | 0, cs => ([], cs)
  | fuel + 1, cs =>
    let found := do
      let (operator, rest) ← scanArithmeticOperator (skipLayout cs)
      let (operand, rest) ← scanFiltered fuel (skipLayout rest)
      some ((operator, operand), rest)
    match found with
    | some (pair, rest) =>
      let (pairs, rest) := scanAddends fuel rest
      (pair :: pairs, rest)
    | none => ([], cs)

/-- Arithmetic and the filters that its result passes through. -/
def scanFiltered : (fuel : Nat) → Scanner Expression
  | 0, _ => none
  | fuel + 1, cs => do
    let (term, rest) ← scanArithmetic fuel cs
    let (filters, rest) := scanFilters fuel rest
    some (.mk term filters false, rest)

/-- A text or a chain of texts, with filters. -/
def scanTextual : (fuel : Nat) → Scanner Expression
  | 0, _ => none
  | fuel + 1, cs => do
    let text := (scanText cs).map fun found => (Term.text found.1, found.2)
    let (term, rest) ← scanChain fuel cs <|> text
    let (filters, rest) := scanFilters fuel rest
    some (.mk term filters false, rest)

def scanChain : (fuel : Nat) → Scanner Term
  | 0, _ => none
  | fuel + 1, cs => do
    let (first, rest) ← scanLink fuel cs
    match scanLinks fuel rest with
    | ([], _) => none
    | (links, rest) => some (.chain (first :: links), rest)

def scanLinks : (fuel : Nat) → List Char → List Term × List Char
  | 0, cs => ([], cs)
  | fuel + 1, cs =>
    let found := match skipLayout cs with
      | '~' :: rest => scanLink fuel (skipLayout rest)
      | _ => none
    match found with
    | some (link, rest) =>
      let (links, rest) := scanLinks fuel rest
      (link :: links, rest)
    | none => ([], cs)

def scanLink : (fuel : Nat) → Scanner Term
  | 0, _ => none
  | fuel + 1, cs =>
    let call := (scanCall fuel cs).map fun found => (Term.call found.1, found.2)
    let text := (scanText cs).map fun found => (Term.text found.1, found.2)
    let path := (scanPath cs).map fun found => (Term.path found.1, found.2)
    call <|> scanFraction cs <|> scanWhole cs <|> text <|> path

/-- Terms with arithmetic operators between them. -/
def scanArithmetic : (fuel : Nat) → Scanner Term
  | 0, _ => none
  | fuel + 1, cs => do
    let (first, rest) ← scanFactor fuel cs
    let (more, rest) := scanFactors fuel rest
    let combine operator left right :=
      Term.arithmetic operator (Expression.ofTerm left) (Expression.ofTerm right)
    some (applyOperators isProduct combine none first more, rest)

def scanFactors : (fuel : Nat) → List Char → List (Arithmetic × Term) × List Char
  | 0, cs => ([], cs)
  | fuel + 1, cs =>
    let found := do
      let (operator, rest) ← scanArithmeticOperator (skipLayout cs)
      let (operand, rest) ← scanFactor fuel (skipLayout rest)
      some ((operator, operand), rest)
    match found with
    | some (pair, rest) =>
      let (pairs, rest) := scanFactors fuel rest
      (pair :: pairs, rest)
    | none => ([], cs)

def scanFactor : (fuel : Nat) → Scanner Term
  | 0, _ => none
  | fuel + 1, cs =>
    let bracketed := match cs with
      | '(' :: rest => do
        let (term, rest) ← scanArithmetic fuel (skipLayout rest)
        match skipLayout rest with
        | ')' :: rest => some (term, rest)
        | _ => none
      | _ => none
    bracketed <|> scanTerm fuel cs

def scanTerm : (fuel : Nat) → Scanner Term
  | 0, _ => none
  | fuel + 1, cs =>
    let boolean := (scanBoolean cs).map fun found => (Term.boolean found.1, found.2)
    let call := (scanCall fuel cs).map fun found => (Term.call found.1, found.2)
    let path := (scanPath cs).map fun found => (Term.path found.1, found.2)
    boolean <|> scanTest fuel true cs <|> scanTest fuel false cs <|> scanRoutine fuel cs <|>
      call <|> path <|> scanFraction cs <|> scanWhole cs

/-- A path, `is`, perhaps `not`, and the name of a test with its arguments. -/
def scanTest : (fuel : Nat) → (isNegated : Bool) → Scanner Term
  | 0, _, _ => none
  | fuel + 1, isNegated, cs => do
    let (path, rest) ← scanPlainPath cs
    let rest ← afterWord "is" (skipLayout rest)
    let rest ← if isNegated then afterWord "not" (skipLayout rest) else some rest
    let (name, rest) ← scanName (skipLayout rest)
    let arguments := match skipLayout rest with
      | '(' :: inner => do
        let (first, inner) ← scanValue fuel (skipLayout inner)
        let (more, inner) := scanValues fuel inner
        match skipLayout inner with
        | ')' :: inner => some (first :: more, inner)
        | _ => none
      | _ => none
    let (arguments, rest) := arguments.getD ([], rest)
    some (.test path isNegated name arguments, rest)

/-- A list or any other expression. -/
def scanValue : (fuel : Nat) → Scanner Expression
  | 0, _ => none
  | fuel + 1, cs => scanLogic fuel cs <|> scanFilteredList fuel cs

def scanValues : (fuel : Nat) → List Char → List Expression × List Char
  | 0, cs => ([], cs)
  | fuel + 1, cs =>
    let found := match skipLayout cs with
      | ',' :: rest => scanValue fuel (skipLayout rest)
      | _ => none
    match found with
    | some (value, rest) =>
      let (values, rest) := scanValues fuel rest
      (value :: values, rest)
    | none => ([], cs)

/-- A call of a routine: two names with two colons between them. -/
def scanRoutine : (fuel : Nat) → Scanner Term
  | 0, _ => none
  | fuel + 1, cs => do
    let (space, rest) ← scanName cs
    let rest ← afterWord "::" (skipLayout rest)
    let (call, rest) ← scanCall fuel (skipLayout rest)
    some (.routine space call, rest)

/-- A name and its arguments in brackets. -/
def scanCall : (fuel : Nat) → Scanner Call
  | 0, _ => none
  | fuel + 1, cs => do
    let (name, rest) ← scanName cs
    match skipLayout rest with
    | '(' :: rest =>
      let start := skipLayout rest
      let (arguments, rest) := match scanArgument fuel start with
        | some (first, rest) =>
          let (more, rest) := scanArguments fuel rest
          match skipLayout rest with
          | ',' :: rest => (first :: more, rest)
          | _ => (first :: more, rest)
        | none => ([], start)
      match skipLayout rest with
      | ')' :: rest => some (.mk name (lastOfEach arguments), rest)
      | _ => none
    | _ => none

def scanArgument : (fuel : Nat) → Scanner (String × Expression)
  | 0, _ => none
  | fuel + 1, cs => do
    let (name, rest) ← scanName cs
    let rest ← afterWord "=" (skipLayout rest)
    let (value, rest) ← scanValue fuel (skipLayout rest)
    some ((name, value), rest)

def scanArguments : (fuel : Nat) → List Char → List (String × Expression) × List Char
  | 0, cs => ([], cs)
  | fuel + 1, cs =>
    let found := match skipLayout cs with
      | ',' :: rest => scanArgument fuel (skipLayout rest)
      | _ => none
    match found with
    | some (argument, rest) =>
      let (arguments, rest) := scanArguments fuel rest
      (argument :: arguments, rest)
    | none => ([], cs)

/-- As many filters as there are: a bar and a name, with or without arguments. -/
def scanFilters : (fuel : Nat) → List Char → List Call × List Char
  | 0, cs => ([], cs)
  | fuel + 1, cs =>
    let found := match skipLayout cs with
      | '|' :: rest => scanFilter fuel (skipLayout rest)
      | _ => none
    match found with
    | some (call, rest) =>
      let (calls, rest) := scanFilters fuel rest
      (call :: calls, rest)
    | none => ([], cs)

def scanFilter : (fuel : Nat) → Scanner Call
  | 0, _ => none
  | fuel + 1, cs =>
    scanCall fuel cs <|> (scanName cs).map fun found => (.mk found.1 [], found.2)

/-- A list and the filters that it passes through. -/
def scanFilteredList : (fuel : Nat) → Scanner Expression
  | 0, _ => none
  | fuel + 1, cs =>
    match cs with
    | '[' :: rest => do
      let (items, rest) := scanItems fuel (skipLayout rest)
      match skipLayout rest with
      | ']' :: rest =>
        let (filters, rest) := scanFilters fuel rest
        some (.mk (.list items) filters false, rest)
      | _ => none
    | _ => none

/-- The items of a list; a comma may follow the last one. -/
def scanItems : (fuel : Nat) → List Char → List Expression × List Char
  | 0, cs => ([], cs)
  | fuel + 1, cs =>
    match scanLogicValue fuel cs with
    | some (item, rest) =>
      match skipLayout rest with
      | ',' :: rest =>
        let (items, rest) := scanItems fuel (skipLayout rest)
        (item :: items, rest)
      | _ => ([item], rest)
    | none => ([], cs)

end

/-- Enough for any source: each character is looked at by few rules at a time. -/
def grammarFuel (cs : List Char) : Nat :=
  24 * (cs.length + 1)

/-- An expression or a list. -/
def scanExpression : Scanner Expression := fun cs =>
  scanValue (grammarFuel cs) cs

/-- An expression that is no list. -/
def scanCondition : Scanner Expression := fun cs =>
  scanLogic (grammarFuel cs) cs

/-- What a loop runs over: a value without operators of logic, or a list. -/
def scanContainer : Scanner Expression := fun cs =>
  scanFiltered (grammarFuel cs) cs <|> scanFilteredList (grammarFuel cs) cs

/-- A filter with or without arguments. -/
def scanFilterCall : Scanner Call := fun cs =>
  scanFilter (grammarFuel cs) cs

end PromptRelay.Template
