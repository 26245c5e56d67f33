import PromptRelay.Template.Grammar
import PromptRelay.Template.Node

/-!
Contract: templates, from their source to their nodes.

Owns:
- the marks of tags, outputs and comments;
- which nodes may stand where;
- the routines and blocks of a template, each of which is defined once.

Does not own: expressions and rendering. A template that builds on another one
does not compile, since there is no other one.
-/

namespace PromptRelay

namespace Template

open Text

/-! ## Marks -/

/-- A mark that may carry a dash: whether it does, and what follows. -/
def scanMark (dashed plain : String) : Scanner Bool := fun cs =>
  match afterWord dashed cs with
  | some rest => some (true, rest)
  | none => (afterWord plain cs).map fun rest => (false, rest)

def scanTagOpen : Scanner Bool := scanMark "\x7b%-" "\x7b%"

def scanTagClose : Scanner Bool := scanMark "-%\x7d" "%\x7d"

def scanOutputOpen : Scanner Bool := scanMark "\x7b\x7b-" "\x7b\x7b"

def scanOutputClose : Scanner Bool := scanMark "-\x7d\x7d" "\x7d\x7d"

def scanCommentOpen : Scanner Bool := scanMark "\x7b#-" "\x7b#"

def scanCommentClose : Scanner Bool := scanMark "-#\x7d" "#\x7d"

/-- Whether a mark that opens something stands here. -/
def isMarked : List Char → Bool
  | '\x7b' :: c :: _ => c == '\x7b' || c == '%' || c == '#'
  | _ => false

/-- The opening of a tag with the given keyword. -/
def scanKeyword (word : String) : Scanner Bool := fun cs => do
  let (opening, rest) ← scanTagOpen cs
  let rest ← afterWord word (skipLayout rest)
  some (opening, rest)

/-- The rest of a tag, layout before it aside. -/
def closeTag (opening : Bool) (cs : List Char) : Option (Dashes × List Char) := do
  let (closing, rest) ← scanTagClose (skipLayout cs)
  some ({ opening, closing }, rest)

/-- A tag that is a keyword only. -/
def scanBareTag (word : String) : Scanner Dashes := fun cs => do
  let (opening, rest) ← scanKeyword word cs
  closeTag opening rest

/-- A tag that is a keyword and perhaps a name. -/
def scanNamedEnd (word : String) : Scanner Dashes := fun cs => do
  let (opening, rest) ← scanKeyword word cs
  let start := skipLayout rest
  closeTag opening (((scanName start).map Prod.snd).getD start)

/-! ## Single tags -/

def scanOutput : Scanner Node := fun cs => do
  let (opening, rest) ← scanOutputOpen cs
  let (expression, rest) ← scanExpression (skipLayout rest)
  let (closing, rest) ← scanOutputClose (skipLayout rest)
  some (.output { opening, closing } expression, rest)

/-- The first place where a closing mark of a comment stands. -/
def scanCommentEnd : List Char → Option (Bool × List Char)
  | [] => none
  | c :: rest =>
    match scanCommentClose (c :: rest) with
    | some found => some found
    | none => scanCommentEnd rest

def scanComment : Scanner Node := fun cs => do
  let (opening, rest) ← scanCommentOpen cs
  let (closing, rest) ← scanCommentEnd rest
  some (.comment { opening, closing }, rest)

def scanAssign (word : String) (isGlobal : Bool) : Scanner Node := fun cs => do
  let (opening, rest) ← scanKeyword word cs
  let rest ← someLayout rest
  let (name, rest) ← scanName rest
  let rest ← afterWord "=" (skipLayout rest)
  let (value, rest) ← scanExpression (skipLayout rest)
  let (dashes, rest) ← closeTag opening rest
  some (.assign dashes isGlobal name value, rest)

/-- Texts with commas between them; a comma may follow the last one. -/
def scanTexts : (fuel : Nat) → List Char → List String × List Char
  | 0, cs => ([], cs)
  | fuel + 1, cs =>
    match scanText cs with
    | some (text, rest) =>
      match skipLayout rest with
      | ',' :: rest =>
        let (texts, rest) := scanTexts fuel (skipLayout rest)
        (text :: texts, rest)
      | _ => ([text], rest)
    | none => ([], cs)

/-- One text or a list of texts. -/
def scanNames : Scanner (List String) := fun cs =>
  match cs with
  | '[' :: rest =>
    let (names, rest) := scanTexts (rest.length + 1) (skipLayout rest)
    match skipLayout rest with
    | ']' :: rest => some (names, rest)
    | _ => none
  | _ => (scanText cs).map fun found => ([found.1], found.2)

def scanInsert : Scanner Node := fun cs => do
  let (opening, rest) ← scanKeyword "include" cs
  let rest ← someLayout rest
  let (names, rest) ← scanNames rest
  let start := skipLayout rest
  let ignoring := afterWord "ignore missing" start
  let (dashes, rest) ← closeTag opening (ignoring.getD start)
  some (.insert dashes names ignoring.isSome, rest)

/-- What stands before the closing tag of a verbatim section, and that tag. -/
def scanVerbatimEnd : List Char → Option (List Char × Dashes × List Char)
  | [] => none
  | c :: rest =>
    match scanBareTag "endraw" (c :: rest) with
    | some (last, rest) => some ([], last, rest)
    | none => do
      let (content, last, rest) ← scanVerbatimEnd rest
      some (c :: content, last, rest)

def scanVerbatim : Scanner Node := fun cs => do
  let (first, rest) ← scanBareTag "raw" cs
  let (content, last, rest) ← scanVerbatimEnd rest
  some (.verbatim first content last, rest)

/-- Everything up to the next mark. -/
def takeText : List Char → List Char × List Char
  | [] => ([], [])
  | c :: rest =>
    if isMarked (c :: rest) then
      ([], c :: rest)
    else
      let (content, rest) := takeText rest
      (c :: content, rest)

def scanPlain : Scanner Node := fun cs =>
  match takeText cs with
  | ([], _) => none
  | (content, rest) => some (.text content, rest)

/-- The default of a parameter. -/
def scanDefault : Scanner Term := fun cs =>
  let boolean := (scanBoolean cs).map fun found => (Term.boolean found.1, found.2)
  let text := (scanText cs).map fun found => (Term.text found.1, found.2)
  boolean <|> text <|> scanFraction cs <|> scanWhole cs

def scanParameter : Scanner (String × Option Term) := fun cs => do
  let (name, rest) ← scanName cs
  let default := do
    let start ← afterWord "=" (skipLayout rest)
    let (value, rest) ← scanDefault (skipLayout start)
    some (some value, rest)
  let (value, rest) := default.getD (none, rest)
  some ((name, value), rest)

def scanParameters : (fuel : Nat) → List Char → List (String × Option Term) × List Char
  | 0, cs => ([], cs)
  | fuel + 1, cs =>
    let found := match skipLayout cs with
      | ',' :: rest => scanParameter (skipLayout rest)
      | _ => none
    match found with
    | some (parameter, rest) =>
      let (parameters, rest) := scanParameters fuel rest
      (parameter :: parameters, rest)
    | none => ([], cs)

/-- The name of a routine and its parameters in brackets. -/
def scanSignature : Scanner (String × List (String × Option Term)) := fun cs => do
  let (name, rest) ← scanName cs
  let rest ← afterWord "(" (skipLayout rest)
  let start := skipLayout rest
  let (parameters, rest) := match scanParameter start with
    | some (first, rest) =>
      let (more, rest) := scanParameters (rest.length + 1) rest
      (first :: more, rest)
    | none => ([], start)
  let rest ← afterWord ")" (skipLayout rest)
  some ((name, parameters), rest)

/-- The opening tag of a loop. -/
structure LoopHead where
  dashes : Dashes
  key : Option String
  item : String
  container : Expression
deriving Inhabited

def scanLoopHead : Scanner LoopHead := fun cs => do
  let (opening, rest) ← scanKeyword "for" cs
  let rest ← someLayout rest
  let (first, rest) ← scanName rest
  let second := do
    let rest ← afterWord "," rest
    scanName (skipLayout rest)
  let (key, item, rest) := match second with
    | some (item, rest) => (some first, item, rest)
    | none => (none, first, rest)
  let rest ← someLayout rest
  let rest ← afterWord "in" rest
  let rest ← someLayout rest
  let (container, rest) ← scanContainer rest
  let (dashes, rest) ← closeTag opening rest
  some ({ dashes, key, item, container }, rest)

/-- The opening tag of a branch. -/
def scanBranchHead (word : String) : Scanner (Dashes × Expression) := fun cs => do
  let (opening, rest) ← scanKeyword word cs
  let rest ← someLayout rest
  let (condition, rest) ← scanCondition rest
  let (dashes, rest) ← closeTag opening rest
  some ((dashes, condition), rest)

/-! ## Nodes with bodies -/

/-- Where nodes stand, which decides what else may stand there. -/
inductive Place where
  | top
  | inRoutine
  | inBlock
  | inLoop
  | inFilter
deriving DecidableEq, Repr

def Place.allowsBlocks : Place → Bool
  | .top | .inBlock | .inFilter => true
  | .inRoutine | .inLoop => false

/-- Tags without a body. -/
def scanSingle (place : Place) : Scanner Node := fun cs =>
  let leaving := if place = .inLoop then
      ((scanBareTag "break" cs).map fun found => (Node.leave found.1, found.2)) <|>
        (scanBareTag "continue" cs).map fun found => (Node.next found.1, found.2)
    else none
  scanPlain cs <|> scanOutput cs <|> scanComment cs <|> scanInsert cs <|>
    scanAssign "set" false cs <|> scanAssign "set_global" true cs <|> scanVerbatim cs <|> leaving

/-- Trims siblings, unless they stand where dashes are not heeded. -/
def trimBody (heedsDashes isBefore isAfter : Bool) (nodes : List Node) : List Node :=
  if heedsDashes then trimSiblings isAfter isBefore nodes else nodes

mutual

/-- As many nodes as may stand in this place. `fuel` bounds nesting and their
number. -/
def scanNodes : (fuel : Nat) → (heedsDashes : Bool) → Place → List Char →
    List Node × List Char
  | 0, _, _, cs => ([], cs)
  | fuel + 1, heedsDashes, place, cs =>
    let found := scanSingle place cs <|> scanLoop fuel heedsDashes cs <|>
      scanBranch fuel heedsDashes place cs <|> scanFilterSection fuel heedsDashes cs <|>
      (if place.allowsBlocks then scanBlock fuel heedsDashes cs else none) <|>
      (if place = .top then scanDefinition fuel heedsDashes cs else none)
    match found with
    | some (node, rest) =>
      let (nodes, rest) := scanNodes fuel heedsDashes place rest
      (node :: nodes, rest)
    | none => ([], cs)

/-- A loop. Its dashes trim the body for the items; in the body for the empty
container no dashes are heeded. -/
def scanLoop : (fuel : Nat) → (heedsDashes : Bool) → Scanner Node
  | 0, _, _ => none
  | fuel + 1, heedsDashes, cs => do
    let (head, rest) ← scanLoopHead cs
    let (body, rest) := scanNodes fuel heedsDashes .inLoop rest
    let (otherwise, rest) := scanOtherwise fuel rest
    let (last, rest) ← scanBareTag "endfor" rest
    let body := trimBody heedsDashes head.dashes.closing last.opening body
    some (.loop head.dashes head.key head.item head.container body otherwise last, rest)

/-- What a loop renders for an empty container; of several the last one counts. -/
def scanOtherwise : (fuel : Nat) → List Char → Option (List Node) × List Char
  | 0, cs => (none, cs)
  | fuel + 1, cs =>
    match scanBareTag "else" cs with
    | some (_, rest) =>
      let (nodes, rest) := scanNodes fuel false .inLoop rest
      let (later, rest) := scanOtherwise fuel rest
      (some (later.getD nodes), rest)
    | none => (none, cs)

def scanBranch : (fuel : Nat) → (heedsDashes : Bool) → Place → Scanner Node
  | 0, _, _, _ => none
  | fuel + 1, heedsDashes, place, cs => do
    let ((dashes, condition), rest) ← scanBranchHead "if" cs
    let (body, rest) := scanNodes fuel heedsDashes place rest
    let (more, rest) := scanBranches fuel heedsDashes place rest
    let otherwise := (scanBareTag "else" rest).map fun found =>
      let (nodes, rest) := scanNodes fuel heedsDashes place found.2
      ((found.1, nodes), rest)
    let rest := match otherwise with
      | some (_, rest) => rest
      | none => rest
    let (last, rest) ← scanBareTag "endif" rest
    let branches := (dashes, condition, body) :: more
    -- A body ends where the tag of the next branch begins.
    let ends := more.map (fun branch => branch.1.opening) ++
      [match otherwise with
        | some ((dashes, _), _) => dashes.opening
        | none => last.opening]
    let branches := (branches.zip ends).map fun (branch, isAfter) =>
      (branch.1, branch.2.1, trimBody heedsDashes branch.1.closing isAfter branch.2.2)
    let otherwise := otherwise.map fun ((dashes, nodes), _) =>
      (dashes, trimBody heedsDashes dashes.closing last.opening nodes)
    some (.branch branches otherwise last, rest)

def scanBranches : (fuel : Nat) → (heedsDashes : Bool) → Place → List Char →
    List (Dashes × Expression × List Node) × List Char
  | 0, _, _, cs => ([], cs)
  | fuel + 1, heedsDashes, place, cs =>
    match scanBranchHead "elif" cs with
    | some ((dashes, condition), rest) =>
      let (body, rest) := scanNodes fuel heedsDashes place rest
      let (more, rest) := scanBranches fuel heedsDashes place rest
      ((dashes, condition, body) :: more, rest)
    | none => ([], cs)

def scanFilterSection : (fuel : Nat) → (heedsDashes : Bool) → Scanner Node
  | 0, _, _ => none
  | fuel + 1, heedsDashes, cs => do
    let (opening, rest) ← scanKeyword "filter" cs
    let rest ← someLayout rest
    let (call, rest) ← scanFilterCall rest
    let (first, rest) ← closeTag opening rest
    let (body, rest) := scanNodes fuel heedsDashes .inFilter rest
    let (last, rest) ← scanBareTag "endfilter" rest
    some (.filtered first call (trimBody heedsDashes first.closing last.opening body) last, rest)

def scanBlock : (fuel : Nat) → (heedsDashes : Bool) → Scanner Node
  | 0, _, _ => none
  | fuel + 1, heedsDashes, cs => do
    let (opening, rest) ← scanKeyword "block" cs
    let rest ← someLayout rest
    let (name, rest) ← scanName rest
    let (first, rest) ← closeTag opening rest
    let (body, rest) := scanNodes fuel heedsDashes .inBlock rest
    let (last, rest) ← scanNamedEnd "endblock" rest
    some (.block first name (trimBody heedsDashes first.closing last.opening body) last, rest)

def scanDefinition : (fuel : Nat) → (heedsDashes : Bool) → Scanner Node
  | 0, _, _ => none
  | fuel + 1, heedsDashes, cs => do
    let (opening, rest) ← scanKeyword "macro" cs
    let rest ← someLayout rest
    let ((name, parameters), rest) ← scanSignature rest
    let (first, rest) ← closeTag opening rest
    let (body, rest) := scanNodes fuel heedsDashes .inRoutine rest
    let (last, rest) ← scanNamedEnd "endmacro" rest
    let body := trimBody heedsDashes first.closing last.opening body
    some (.routine first name parameters body last, rest)

end

/-! ## Templates -/

/-- A routine that a template defines. -/
structure Routine where
  name : String
  parameters : List (String × Option Term)
  body : List Node
deriving Inhabited

def routinesOf (nodes : List Node) : List Routine :=
  nodes.filterMap fun node => match node with
    | .routine _ name parameters body _ => some { name, parameters, body }
    | _ => none

/-- The blocks among nodes, with those that lie directly in other blocks. -/
def blocksOf : (fuel : Nat) → List Node → List (String × List Node)
  | 0, _ => []
  | fuel + 1, nodes => nodes.flatMap fun node => match node with
    | .block _ name body _ => (name, body) :: blocksOf fuel body
    | _ => []

def hasRepetition : List String → Bool
  | [] => false
  | name :: rest => rest.contains name || hasRepetition rest

end Template

/-- A compiled template. -/
structure Template where
  nodes : List Template.Node
  routines : List Template.Routine
  blocks : List (String × List Template.Node)
deriving Inhabited

namespace Template

/-- The template that a source spells, if it spells one. -/
def compile (source : String) : Option Template :=
  let cs := source.toList
  match scanNodes (4 * (cs.length + 1)) true .top cs with
  | (nodes, []) =>
    let nodes := trimSiblings false false nodes
    let routines := routinesOf nodes
    let blocks := blocksOf (cs.length + 1) nodes
    if hasRepetition (routines.map (·.name)) || hasRepetition (blocks.map Prod.fst) then none
    else some { nodes, routines, blocks }
  | _ => none

end Template

end PromptRelay
