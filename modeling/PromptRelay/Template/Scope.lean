import PromptRelay.Template.Expression
import PromptRelay.Template.Values

/-!
Contract: which variables there are while a template renders.

Owns:
- the frames of loops, routines and inserted templates, innermost first;
- looking up a path and assigning a variable;
- the dump of all variables.

Does not own: when frames are entered and left.
-/

namespace PromptRelay.Template

open Json

inductive FrameKind where
  /-- The frame that rendering starts with. -/
  | origin
  | loop
  | routine
  | insertion
deriving DecidableEq, Repr, Inhabited

/-- The item that a loop is at. -/
structure Iteration where
  keyName : Option String
  key : String
  itemName : String
  item : Value
  position : Nat
  count : Nat
deriving Inhabited

structure Frame where
  kind : FrameKind
  values : Members := []
  iteration : Option Iteration := none
deriving Inhabited

/-- The frames, innermost first, around the variables that rendering was given. -/
structure Scope where
  frames : List Frame
  given : Members
deriving Inhabited

/-- A step whose token is known. -/
structure Token where
  text : String
  isQuoted : Bool
deriving DecidableEq, Repr

def partAt? (tokens : List Token) (value : Value) : Option Value :=
  follow? (tokens.map Token.text) value

/-- What a loop itself tells: its position and whether it is at an end. -/
def Iteration.state? (iteration : Iteration) (tokens : List Token) : Option Value :=
  match tokens with
  | [⟨text, false⟩] =>
    if text = "index" then some (.integer (iteration.position + 1))
    else if text = "index0" then some (.integer iteration.position)
    else if text = "first" then some (.boolean (iteration.position = 0))
    else if text = "last" then some (.boolean (iteration.position + 1 = iteration.count))
    else none
  | _ => none

def Iteration.find? (iteration : Iteration) (head : String) (tokens : List Token) :
    Option Value :=
  let state := if head = "loop" then iteration.state? tokens else none
  let key := if iteration.keyName = some head then some (Value.text iteration.key) else none
  let item := if head = iteration.itemName then partAt? tokens iteration.item else none
  state <|> key <|> item

def Frame.find? (frame : Frame) (head : String) (tokens : List Token) : Option Value :=
  (frame.values.lookup head).bind (partAt? tokens) <|>
    frame.iteration.bind fun iteration => iteration.find? head tokens

/-- Looks in the frames from the innermost one out. A routine does not see the
frames around it. -/
def findInFrames (head : String) (tokens : List Token) : List Frame → Option Value
  | [] => none
  | frame :: frames =>
    match frame.find? head tokens with
    | some value => some value
    | none =>
      if frame.kind = .routine then none else findInFrames head tokens frames

def Scope.find? (scope : Scope) (head : String) (tokens : List Token) : Option Value :=
  findInFrames head tokens scope.frames <|>
    (scope.given.lookup head).bind (partAt? tokens)

mutual

/-- The value at the end of a path. -/
def Scope.value? (scope : Scope) (head : String) (steps : List Step) : Option Value := do
  scope.find? head (← scope.tokens? steps)

/-- The tokens of steps. A step that names a variable takes its text or number. -/
def Scope.tokens? (scope : Scope) : List Step → Option (List Token)
  | [] => some []
  | .key text :: steps => do
    some (⟨text, false⟩ :: (← scope.tokens? steps))
  | .quoted text :: steps => do
    some (⟨text, true⟩ :: (← scope.tokens? steps))
  | .value head inner :: steps => do
    let token ← match ← scope.value? head inner with
      | .text text => some ⟨text, true⟩
      | .integer value => some ⟨toString value, false⟩
      | .float value => some ⟨String.ofList (Decimal.scientific value), false⟩
      | _ => none
    some (token :: (← scope.tokens? steps))

end

/-! ## Changes -/

def Frame.put (name : String) (value : Value) (frame : Frame) : Frame :=
  { frame with values := insertMember name value frame.values }

/-- Assigns in the innermost frame that is no loop. -/
def assignOutside (name : String) (value : Value) : List Frame → List Frame
  | [] => []
  | frame :: frames =>
    if frame.kind = .loop then frame :: assignOutside name value frames
    else frame.put name value :: frames

def Scope.assign (isGlobal : Bool) (name : String) (value : Value) (scope : Scope) : Scope :=
  if isGlobal then
    { scope with frames := assignOutside name value scope.frames }
  else
    match scope.frames with
    | [] => scope
    | frame :: frames => { scope with frames := frame.put name value :: frames }

def Scope.enter (frame : Frame) (scope : Scope) : Scope :=
  { scope with frames := frame :: scope.frames }

def Scope.leave (scope : Scope) : Scope :=
  { scope with frames := scope.frames.tail }

/-! ## Dump -/

/-- The name that stands for all variables. -/
def dumpName : String := "__tera_context"

def Frame.extend (members : Members) (frame : Frame) : Members :=
  let members := frame.values.foldl (fun all entry => insertMember entry.1 entry.2 all) members
  match frame.iteration with
  | none => members
  | some iteration =>
    let members := insertMember iteration.itemName iteration.item members
    match iteration.keyName with
    | some name => insertMember name (.text iteration.key) members
    | none => members

/-- The variables of the frames that are seen; outer frames win. -/
def visibleMembers (members : Members) : List Frame → Members × Bool
  | [] => (members, false)
  | frame :: frames =>
    let members := frame.extend members
    if frame.kind = .routine then (members, true) else visibleMembers members frames

/-- All variables as indented JSON text. -/
def Scope.dump (scope : Scope) : Value :=
  let (members, isRoutine) := visibleMembers [] scope.frames
  let members := if isRoutine then members
    else members.foldl (fun all entry => insertMember entry.1 entry.2 all) scope.given
  .text (indented (.object members))

end PromptRelay.Template
