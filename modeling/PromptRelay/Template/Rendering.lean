import PromptRelay.Template.Filter
import PromptRelay.Template.Operators
import PromptRelay.Template.Scope
import PromptRelay.Template.Source

/-!
Contract: what a template renders to.

Owns:
- the value, the truth and the number of an expression;
- what nodes write, and which variables they leave behind;
- rendering a whole template with the variables it is given, and how deep this may
  nest before the stack is used up.

Does not own: the source of templates. Whatever fails makes the whole rendering
fail; it is not told apart why. Whatever crashes makes it crash.
-/

namespace PromptRelay.Template

open Json

/-- What does not change while a template renders. -/
structure Surroundings where
  template : Template
  /-- The variables of the environment. -/
  environment? : String → Option String

/-- How a loop body goes on. -/
inductive Flow where
  | onward
  /-- The loop is left. -/
  | left
  /-- The rest of the body is passed over. -/
  | passed
deriving DecidableEq, Repr

/-- What nodes wrote, and the scope that they leave behind. -/
structure Rendered where
  text : String
  scope : Scope
  flow : Flow := .onward

/-- The name by which a template is known to itself. -/
def ownName : String := "prompt"

/-- The filter that only marks a value. -/
def isMarker (call : Call) : Bool :=
  call.name = "safe" || call.name = "default"

def hasDefault (expression : Expression) : Bool :=
  match expression.filters with
  | call :: _ => call.name = "default"
  | [] => false

def Scope.valueOf? (scope : Scope) (path : Path) : Option Value :=
  if path.head = dumpName && path.steps.isEmpty then some scope.dump
  else scope.value? path.head path.steps

/-- The text of a value in a chain, which takes texts and numbers. -/
def linkText? : Value → Option String
  | .text value => some value
  | .integer value => some (toString value)
  | .float value => some (String.ofList (Decimal.scientific value))
  | _ => none

/-- The items that a loop runs over, each with its key. -/
def iterations? (key : Option String) : Value → Option (List (String × Value))
  | .list items => if key.isSome then none else some (items.map fun item => ("", item))
  | .text text =>
    if key.isSome then none
    else some ((Text.visible text.toList).map fun shown => ("", chars shown))
  | .object members => if key.isNone then none else some members
  | _ => none

/-- The frame of a loop at one of its items. -/
def loopFrame (keyName : Option String) (itemName : String) (count position : Nat)
    (entry : String × Value) : Frame :=
  { kind := .loop
    iteration := some {
      keyName, itemName, count, position
      key := entry.1
      item := entry.2 } }

/-- Calls that nest deeper than this use the stack up. It has 8 MiB, and no call
takes less than 512 bytes of it. -/
def stackDepth : Nat := 16384

/-- Loops run over variables, calls and lists. -/
def isContainer : Term → Bool
  | .path _ | .call _ | .list _ => true
  | _ => false

mutual

/-- The value of an expression. -/
def evaluate (around : Surroundings) : (depth : Nat) → Scope → Expression → Evaluation Value
  | 0, _, _ => .crash .stack
  | depth + 1, scope, expression => do
    let isMissing := match expression.term with
      | .path path => ((scope.valueOf? path).getD .null matches .null)
      | _ => false
    let isUnknown := match expression.term with
      | .path path => (scope.valueOf? path).isNone
      | _ => false
    -- A negated variable is true if it is missing or null.
    if isMissing && expression.isNegated && !(isUnknown && hasDefault expression) then
      .ok (.boolean true)
    else
      let start ←
        if isMissing && hasDefault expression then do
          let call ← .ofOption expression.filters.head?
          evaluate around depth scope (← .ofOption (call.arguments.lookup "value"))
        else
          termValue around depth scope expression
      let value ← expression.filters.foldlM (fun value call =>
        if isMarker call then .ok value
        else do
          let apply ← .ofOption (filter? call.name)
          apply (← evaluateArguments around depth scope call) value) start
      .ok (if expression.isNegated then .boolean (!isTruthy value) else value)

/-- The value of the term of an expression, before filters. -/
def termValue (around : Surroundings) : (depth : Nat) → Scope → Expression → Evaluation Value
  | 0, _, _ => .crash .stack
  | depth + 1, scope, expression =>
    match expression.term with
    | .text value => .ok (.text value)
    | .integer value => .ok (.integer value)
    | .float value => requireFinite value
    | .boolean value => .ok (.boolean value)
    | .chain parts => do
      let texts ← parts.mapM fun part => match part with
        | .text value => .ok value
        | .integer value => .ok (toString value)
        | .float value => .ok (String.ofList (Decimal.plain value))
        | .path path => .ofOption ((scope.valueOf? path).bind linkText?)
        | .call call => do .ofOption (linkText? (← evaluateCall around depth scope call))
        | _ => .fail
      .ok (.text (String.join texts))
    | .path path => .ofOption (scope.valueOf? path)
    | .call call => evaluateCall around depth scope call
    | .routine space call => do
      .ok (.text (← runRoutine around depth scope space call))
    | .test .. | .membership .. | .connective .. | .comparison .. => do
      -- What is negated here is negated again by its expression.
      let isNegated := expression.isNegated && (expression.term matches
        .connective .. | .comparison ..)
      .ok (.boolean (← truth around depth scope (negateIf isNegated expression)))
    | .arithmetic .. => do
      match ← number around depth scope expression.term with
      | some value => .ok value
      | none => .ok (.text "NaN")
    | .list items => do
      .ok (.list (← items.mapM fun item => evaluate around depth scope item))

def evaluateArguments (around : Surroundings) :
    (depth : Nat) → Scope → Call → Evaluation Members
  | 0, _, _ => .crash .stack
  | depth + 1, scope, call =>
    call.arguments.mapM fun (name, value) => do
      .ok (name, ← evaluate around depth scope value)

/-- What a function gives for its arguments. -/
def evaluateCall (around : Surroundings) : (depth : Nat) → Scope → Call → Evaluation Value
  | 0, _, _ => .crash .stack
  | depth + 1, scope, call => do
    let apply ← .ofOption (function? around.environment? call.name)
    apply (← evaluateArguments around depth scope call)

/-- What a routine of this template renders to. -/
def runRoutine (around : Surroundings) :
    (depth : Nat) → Scope → (space : String) → Call → Evaluation String
  | 0, _, _, _ => .crash .stack
  | depth + 1, scope, space, call => do
    let routine ← .ofOption (if space = "self" then
        around.template.routines.find? (·.name == call.name)
      else none)
    let values ← routine.parameters.mapM fun (name, default) => do
      let value ← .ofOption (call.arguments.lookup name <|> default.map Expression.ofTerm)
      .ok (name, ← evaluate around depth scope value)
    let frame : Frame := { kind := .routine, values }
    .ok (← renderNodes around depth (scope.enter frame) routine.body).text

/-- The truth of an expression. -/
def truth (around : Surroundings) : (depth : Nat) → Scope → Expression → Evaluation Bool
  | 0, _, _ => .crash .stack
  | depth + 1, scope, expression =>
    let negated (value : Evaluation Bool) :=
      value.map fun value => value != expression.isNegated
    match expression.term with
    | .connective .disjunction left right => negated do
      if ← truth around depth scope left then .ok true else truth around depth scope right
    | .connective .conjunction left right => negated do
      if ← truth around depth scope left then truth around depth scope right else .ok false
    | .comparison operator left right =>
      if operator = .equal || operator = .unequal then do
        let left ← evaluate around depth scope left
        let right ← evaluate around depth scope right
        match equal? left right with
        | some areEqual => negated (.ok (areEqual != (operator = .unequal)))
        | none => .ok false
      else negated do
        let left ← numberOf around depth scope left
        let right ← numberOf around depth scope right
        .ok (ordered operator (← .ofOption (left.bind float?)) (← .ofOption (right.bind float?)))
    | .path _ => .orValue false ((evaluate around depth scope expression).map isTruthy)
    | .arithmetic .. | .integer _ | .float _ => negated do
      match ← number around depth scope expression.term with
      | some value => .ok (isTruthy value)
      | none => .ok false
    | .membership isNegated item container => negated do
      let item ← evaluate around depth scope item
      let container ← evaluate around depth scope container
      .ok ((← .ofOption (holds? item container)) != isNegated)
    | .test path isNegated name arguments => negated do
      let test ← .ofOption (test? name)
      let arguments ← arguments.mapM fun argument => evaluate around depth scope argument
      .ok ((← .ofOption (test arguments (scope.valueOf? path))) != isNegated)
    | .boolean value => negated (.ok value)
    | .text value => negated (.ok (!value.isEmpty))
    | .call call => negated do
      .ofOption (switch? (← evaluateCall around depth scope call))
    | .chain _ => negated do
      .ok (isTruthy (← termValue around depth scope expression))
    | .routine space call => negated do
      .ok (!(← runRoutine around depth scope space call).isEmpty)
    | .list _ => .fail

/-- The number that an expression is. There is no value if it is not a number after
all. -/
def numberOf (around : Surroundings) :
    (depth : Nat) → Scope → Expression → Evaluation (Option Value)
  | 0, _, _ => .crash .stack
  | depth + 1, scope, expression =>
    if expression.filters.isEmpty then number around depth scope expression.term
    else do
      let value ← evaluate around depth scope expression
      if isNumber value then .ok (some value) else .fail

def number (around : Surroundings) : (depth : Nat) → Scope → Term → Evaluation (Option Value)
  | 0, _, _ => .crash .stack
  | depth + 1, scope, term =>
    match term with
    | .integer value => .ok (some (.integer value))
    | .float value => (requireFinite value).map some
    | .path path => do
      let value ← .ofOption (scope.valueOf? path)
      if isNumber value then .ok (some value) else .fail
    | .call call => do
      let value ← evaluateCall around depth scope call
      if isNumber value then .ok (some value) else .fail
    | .arithmetic operator left right => do
      match ← numberOf around depth scope left, ← numberOf around depth scope right with
      | some left, some right => calculate operator left right
      | _, _ => .ok none
    | _ => .fail

/-- What nodes write one after the other, until one of them leaves the body. -/
def renderNodes (around : Surroundings) :
    (depth : Nat) → Scope → List Node → Evaluation Rendered
  | 0, _, _ => .crash .stack
  | depth + 1, scope, nodes =>
    nodes.foldlM (fun done node =>
      if done.flow = .onward then do
        let next ← renderNode around depth done.scope node
        .ok { next with text := done.text ++ next.text }
      else
        .ok done) { text := "", scope }

def renderNode (around : Surroundings) : (depth : Nat) → Scope → Node → Evaluation Rendered
  | 0, _, _ => .crash .stack
  | depth + 1, scope, node =>
    match node with
    | .text content => .ok { text := String.ofList content, scope }
    | .verbatim _ content _ => .ok { text := String.ofList content, scope }
    | .comment _ => .ok { text := "", scope }
    | .routine .. => .ok { text := "", scope }
    | .output _ expression => do
      .ok { text := writtenText (← evaluate around depth scope expression), scope }
    | .assign _ isGlobal name value => do
      let value ← evaluate around depth scope value
      .ok { text := "", scope := scope.assign isGlobal name value }
    | .insert _ names mayLack =>
      if names.contains ownName then do
        let frame : Frame := { kind := .insertion }
        let inner ← renderNodes around depth (scope.enter frame) around.template.nodes
        .ok { text := inner.text, scope := inner.scope.leave }
      else if mayLack then .ok { text := "", scope }
      else .fail
    | .leave _ => .ok { text := "", scope, flow := .left }
    | .next _ => .ok { text := "", scope, flow := .passed }
    | .branch branches otherwise _ => do
      -- The first branch whose condition holds.
      let chosen ← branches.foldlM (fun chosen (branch : Dashes × Expression × List Node) =>
        match chosen with
        | some body => .ok (some body)
        | none => do
          if ← truth around depth scope branch.2.1 then .ok (some branch.2.2) else .ok none)
        (none : Option (List Node))
      let body := (chosen <|> otherwise.map Prod.snd).getD []
      renderNodes around depth scope body
    | .loop _ key item container body otherwise _ => do
      if !isContainer container.term then .fail
      else
        let entries ← .ofOption (iterations? key (← evaluate around depth scope container))
        if entries.isEmpty then
          renderNodes around depth scope (otherwise.getD [])
        else do
          let done ← entries.zipIdx.foldlM (fun (done : Rendered) (entry, position) =>
            if done.flow = .left then .ok done
            else do
              let frame := loopFrame key item entries.length position entry
              let next ← renderNodes around depth (done.scope.enter frame) body
              .ok { text := done.text ++ next.text
                    scope := next.scope.leave
                    flow := next.flow }) ({ text := "", scope } : Rendered)
          .ok { done with flow := .onward }
    | .filtered _ call body _ => do
      let inner ← renderNodes around depth scope body
      if call.name = "safe" then .ok inner
      else do
        let apply ← .ofOption (filter? call.name)
        let arguments ← evaluateArguments around depth inner.scope call
        .ok { inner with text := writtenText (← apply arguments (.text inner.text)) }
    | .block _ name body _ =>
      renderNodes around depth scope ((around.template.blocks.lookup name).getD body)

end

/-- What a template renders to with the given variables. -/
def render (template : Template) (environment? : String → Option String)
    (given : Members) : Evaluation String := do
  let around : Surroundings := { template, environment? }
  let scope : Scope := { frames := [{ kind := .origin }], given }
  .ok (← renderNodes around stackDepth scope template.nodes).text

end PromptRelay.Template
