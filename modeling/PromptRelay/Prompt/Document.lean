import PromptRelay.Message
import PromptRelay.Yaml.Node

/-!
Contract: the prompt that a YAML document describes.

Owns:
- the members of a prompt and of its messages, which may stand in any order;
- the texts, absent values and choices that YAML scalars spell.

Does not own: YAML itself. Members with other names are passed over; a known
member may not repeat.
-/

namespace PromptRelay.Prompt

open Yaml

/-! ## Scalars -/

def isNullWord (text : String) : Bool :=
  ["null", "Null", "NULL", "~"].contains text

def nullTag : String := "tag:yaml.org,2002:null"

/-- Any scalar is a text. -/
def readText? : Node → Option String
  | .scalar _ text _ => some text
  | _ => none

/-- A text that may be absent: null words and nothing at all stand for that, unless
a tag or quotes say otherwise. -/
def readOptionalText? : Node → Option (Option String)
  | .scalar properties text isPlain =>
    if !isPlain then some (some text)
    else
      match properties.tag with
      | none => if text.isEmpty || isNullWord text then some none else some (some text)
      | some tag =>
        if tag ≠ nullTag then some (some text)
        else if isNullWord text then some none
        else none
  | _ => none

/-- The name of a choice that a tag gives. -/
def tagName? (tag : Option String) : Option String := do
  match (← tag).toList with
  | ['!'] => some "!"
  | '!' :: name => some (String.ofList name)
  | _ => none

/-- One of the given names, as a text or as the tag of an absent value. -/
def readChoice? (choices : List (String × α)) : Node → Option α
  | .scalar properties text isPlain =>
    match tagName? properties.tag with
    | some name =>
      if isPlain && (text.isEmpty || isNullWord text) then choices.lookup name else none
    | none => choices.lookup text
  | _ => none

def readRole? : Node → Option Role :=
  readChoice? [("system", .system), ("user", .user), ("assistant", .assistant)]

def readOperator? : Node → Option Operator :=
  readChoice? [("Index", .index), ("Message", .message)]

/-! ## Members -/

/-- The members of a mapping, whose names have to be texts. -/
def members? (document : Node) : Node → Option (List (String × Node))
  | .mapping _ entries => entries.mapM fun entry => do
    some (← readText? (← entry.1.resolveIn? document), ← entry.2.resolveIn? document)
  | _ => none

/-- The only member of that name, if there is one. -/
def member? (members : List (String × Node)) (name : String) : Option (Option Node) :=
  match members.filter fun entry => entry.1 = name with
  | [] => some none
  | [entry] => some (some entry.2)
  | _ => none

def readMessage? (document : Node) (node : Node) : Option Message := do
  let members ← members? document (← node.resolveIn? document)
  let role ← readRole? (← ← member? members "role")
  let name ← match ← member? members "name" with
    | some name => readOptionalText? name
    | none => some none
  let content ← readText? (← ← member? members "content")
  some { role, name, content }

/-- The items of a sequence. A value that is not written has none. -/
def readItems? : Node → Option (List Node)
  | .sequence _ items => some items
  | .scalar _ "" true => some []
  | _ => none

def ofNode? (document : Node) : Option Prompt := do
  let members ← members? document document
  let operator ← match ← member? members "operator" with
    | some operator => readOperator? operator
    | none => some .message
  let items ← readItems? (← ← member? members "inputs")
  some { operator, inputs := ← items.mapM (readMessage? document) }

/-- The prompt that a YAML text describes. -/
def ofYaml? (text : String) : Option Prompt := do
  ofNode? (← Node.ofText? text)

end PromptRelay.Prompt
