import PromptRelay.Template.Expression
import PromptRelay.Text.Blank

/-!
Contract: the pieces that a template is made of.

Owns:
- texts, outputs, assignments, branches, loops and the other nodes;
- trimming: the dashes of tags take blanks away from the texts beside them.

Does not own: how nodes are written and rendered.
-/

namespace PromptRelay.Template

open Text

/-- The dashes inside of a tag: after its opening and before its closing mark. -/
structure Dashes where
  opening : Bool := false
  closing : Bool := false
deriving DecidableEq, Repr, Inhabited

inductive Node where
  | text (content : List Char)
  /-- Text between two tags of its own, in which no tags are read. -/
  | verbatim (first : Dashes) (content : List Char) (last : Dashes)
  | comment (dashes : Dashes)
  | output (dashes : Dashes) (expression : Expression)
  | assign (dashes : Dashes) (isGlobal : Bool) (name : String) (value : Expression)
  /-- Another template, by the first of its names that exists. -/
  | insert (dashes : Dashes) (names : List String) (mayLack : Bool)
  /-- Leaves a loop. -/
  | leave (dashes : Dashes)
  /-- Goes on with the next item of a loop. -/
  | next (dashes : Dashes)
  | branch (branches : List (Dashes × Expression × List Node))
      (otherwise : Option (Dashes × List Node)) (last : Dashes)
  | loop (first : Dashes) (key : Option String) (item : String) (container : Expression)
      (body : List Node) (otherwise : Option (List Node)) (last : Dashes)
  /-- What its body renders to, passed through a filter. -/
  | filtered (first : Dashes) (filter : Call) (body : List Node) (last : Dashes)
  | block (first : Dashes) (name : String) (body : List Node) (last : Dashes)
  /-- A routine, whose parameters may have defaults. -/
  | routine (first : Dashes) (name : String) (parameters : List (String × Option Term))
      (body : List Node) (last : Dashes)
deriving Inhabited

namespace Node

/-- Whether the node begins with a dash. -/
def hasDashBefore : Node → Bool
  | .text _ => false
  | .verbatim first _ _ => first.opening
  | .comment dashes | .output dashes _ | .assign dashes _ _ _ => dashes.opening
  | .insert dashes _ _ | .leave dashes | .next dashes => dashes.opening
  | .branch branches _ _ => (branches.head?.map fun branch => branch.1.opening).getD false
  | .loop first _ _ _ _ _ _ => first.opening
  | .filtered first _ _ _ | .block first _ _ _ => first.opening
  | .routine first _ _ _ _ => first.opening

/-- Whether the node ends with a dash. -/
def hasDashAfter : Node → Bool
  | .text _ => false
  | .verbatim _ _ last => last.closing
  | .comment dashes | .output dashes _ | .assign dashes _ _ _ => dashes.closing
  | .insert dashes _ _ | .leave dashes | .next dashes => dashes.closing
  | .branch _ _ last => last.closing
  | .loop _ _ _ _ _ _ last => last.closing
  | .filtered _ _ _ last | .block _ _ _ last => last.closing
  | .routine _ _ _ _ last => last.closing

end Node

/-- The content without blanks on the sides where a dash is. -/
def trimSides (isBefore isAfter : Bool) (content : List Char) : List Char :=
  let kept := if isBefore then trimStart content else content
  if isAfter then trimEnd kept else kept

/-- Trims the texts among siblings. `isBefore` says that a dash stands before the
first sibling, `isAfter` that one follows the last. -/
def trimSiblings (isAfter : Bool) : (isBefore : Bool) → List Node → List Node
  | _, [] => []
  | isBefore, .text content :: rest =>
    let isFollowed := match rest with
      | [] => isAfter
      | node :: _ => node.hasDashBefore
    .text (trimSides isBefore isFollowed content) :: trimSiblings isAfter false rest
  | _, .verbatim first content last :: rest =>
    .verbatim first (trimSides first.closing last.opening content) last ::
      trimSiblings isAfter last.closing rest
  | _, node :: rest => node :: trimSiblings isAfter node.hasDashAfter rest

end PromptRelay.Template
