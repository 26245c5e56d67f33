import PromptRelay.Yaml.Lexer

/-!
Contract: the tree of nodes that a YAML text spells.

Owns:
- scalars, sequences, mappings and aliases with their tags and anchors;
- forming the one document of a stream from its tokens;
- finding the node that an alias stands for.

Does not own: what nodes mean.
-/

namespace PromptRelay.Yaml

/-- What stands before a node: an anchor by which aliases find it, and a tag. -/
structure Properties where
  anchor : Option Nat := none
  tag : Option String := none
deriving DecidableEq, Repr, Inhabited

inductive Node where
  | scalar (properties : Properties) (text : String) (isPlain : Bool)
  | sequence (properties : Properties) (items : List Node)
  | mapping (properties : Properties) (entries : List (Node × Node))
  | alias (anchor : Nat)
deriving Repr, Inhabited

/-! ## Anchors -/

mutual

/-- The last node of a tree that bears an anchor. -/
def Node.find? (anchor : Nat) : Node → Option Node
  | .scalar properties text isPlain =>
    if properties.anchor = some anchor then some (.scalar properties text isPlain) else none
  | .sequence properties items =>
    findInItems anchor items <|>
      if properties.anchor = some anchor then some (.sequence properties items) else none
  | .mapping properties entries =>
    findInEntries anchor entries <|>
      if properties.anchor = some anchor then some (.mapping properties entries) else none
  | .alias _ => none

def findInItems (anchor : Nat) : List Node → Option Node
  | [] => none
  | item :: items => findInItems anchor items <|> item.find? anchor

def findInEntries (anchor : Nat) : List (Node × Node) → Option Node
  | [] => none
  | (key, value) :: entries =>
    findInEntries anchor entries <|> value.find? anchor <|> key.find? anchor

end

/-- The node itself, or the node of the document that it is an alias of. -/
def Node.resolveIn? (node document : Node) : Option Node :=
  match node with
  | .alias anchor => document.find? anchor
  | node => some node

/-! ## Forming nodes -/

/-- The tokens to come, the anchors named so far and the beginnings of tags. -/
structure Composer where
  tokens : List Token
  anchors : List (String × Nat) := []
  handles : List (String × String) := []
deriving Repr

namespace Composer

def skip (composer : Composer) : Composer :=
  { composer with tokens := composer.tokens.tail }

/-- Takes a name for the next node. It is numbered by how many names there are. -/
def addAnchor (name : String) (composer : Composer) : Nat × Composer :=
  let number := composer.anchors.length
  let others := composer.anchors.filter fun entry => entry.1 ≠ name
  (number, { composer with anchors := (name, number) :: others })

def takeAnchor (composer : Composer) : Option Nat × Composer :=
  match composer.tokens with
  | .anchor name :: _ =>
    let (number, composer) := composer.skip.addAnchor name
    (some number, composer)
  | _ => (none, composer)

/-- A tag, whose handle has to be known. -/
def takeTag (composer : Composer) : Option (Option String × Composer) :=
  match composer.tokens with
  | .tag handle suffix :: _ =>
    if handle.isEmpty then some (some suffix, composer.skip)
    else do
      let start ← composer.handles.lookup handle
      some (some (start ++ suffix), composer.skip)
  | _ => some (none, composer)

/-- An anchor and a tag, in either order. -/
def takeProperties (composer : Composer) : Option (Properties × Composer) := do
  match composer.takeAnchor with
  | (some anchor, composer) =>
    let (tag, composer) ← composer.takeTag
    some ({ anchor, tag }, composer)
  | (none, composer) =>
    let (tag, composer) ← composer.takeTag
    let (anchor, composer) := if tag.isSome then composer.takeAnchor else (none, composer)
    some ({ anchor, tag }, composer)

/-- A scalar that is not written. -/
def emptyScalar : Node :=
  .scalar {} "" true

/-- The tag that only says that a scalar is not plain is dropped. -/
def scalar (properties : Properties) (text : String) (isPlain : Bool) : Node :=
  let tag := if properties.tag = some "!" then none else properties.tag
  .scalar { properties with tag } text isPlain

mutual

/-- A node. `fuel` bounds the depth of what follows, as everywhere below. -/
def node (allowsBlock isIndentless : Bool) : (fuel : Nat) → Composer → Option (Node × Composer)
  | 0, _ => none
  | fuel + 1, composer =>
    match composer.tokens with
    | .alias name :: _ => do
      some (.alias (← composer.anchors.lookup name), composer.skip)
    | _ => do
      let (properties, composer) ← composer.takeProperties
      match composer.tokens with
      | .scalar text isPlain :: _ => some (scalar properties text isPlain, composer.skip)
      | .flowSequence :: _ =>
        let (items, composer) ← flowItems true fuel composer.skip
        some (.sequence properties items, composer)
      | .flowMapping :: _ =>
        let (entries, composer) ← flowEntries true fuel composer.skip
        some (.mapping properties entries, composer)
      | token :: _ =>
        if isIndentless && token = .blockEntry then
          let (items, composer) ← indentlessItems fuel composer
          some (.sequence properties items, composer)
        else if allowsBlock && token = .blockSequence then
          let (items, composer) ← blockItems fuel composer.skip
          some (.sequence properties items, composer)
        else if allowsBlock && token = .blockMapping then
          let (entries, composer) ← blockEntries fuel composer.skip
          some (.mapping properties entries, composer)
        else if properties = {} then none
        else some (.scalar properties "" true, composer)
      | [] => none

/-- A node, unless one of the given tokens stands in its place. -/
def nodeUnless (enders : List Token) (allowsBlock isIndentless : Bool) :
    (fuel : Nat) → Composer → Option (Node × Composer)
  | 0, _ => none
  | fuel + 1, composer =>
    if composer.tokens.head?.any enders.contains then some (emptyScalar, composer)
    else node allowsBlock isIndentless fuel composer

def blockItems : (fuel : Nat) → Composer → Option (List Node × Composer)
  | 0, _ => none
  | fuel + 1, composer =>
    match composer.tokens with
    | .blockEntry :: _ => do
      let (item, composer) ←
        nodeUnless [.blockEntry, .blockEnd] true false fuel composer.skip
      let (items, composer) ← blockItems fuel composer
      some (item :: items, composer)
    | .blockEnd :: _ => some ([], composer.skip)
    | _ => none

/-- The items of a sequence that lies no further in than the key it belongs to. -/
def indentlessItems : (fuel : Nat) → Composer → Option (List Node × Composer)
  | 0, _ => none
  | fuel + 1, composer =>
    match composer.tokens with
    | .blockEntry :: _ => do
      let (item, composer) ←
        nodeUnless [.blockEntry, .key, .value, .blockEnd] true false fuel composer.skip
      let (items, composer) ← indentlessItems fuel composer
      some (item :: items, composer)
    | _ => some ([], composer)

def blockEntries : (fuel : Nat) → Composer → Option (List (Node × Node) × Composer)
  | 0, _ => none
  | fuel + 1, composer => do
    match composer.tokens with
    | .blockEnd :: _ => some ([], composer.skip)
    | .key :: _ =>
      let (key, composer) ←
        nodeUnless [.key, .value, .blockEnd] true true fuel composer.skip
      let (value, composer) ← blockValue fuel composer
      let (entries, composer) ← blockEntries fuel composer
      some ((key, value) :: entries, composer)
    | _ => none

/-- The value of a key, which may be missing together with its colon. -/
def blockValue : (fuel : Nat) → Composer → Option (Node × Composer)
  | 0, _ => none
  | fuel + 1, composer =>
    match composer.tokens with
    | .value :: _ => nodeUnless [.key, .value, .blockEnd] true true fuel composer.skip
    | _ => some (emptyScalar, composer)

/-- Goes to the next item of a flow collection. Commas stand between items. -/
def nextInFlow (isFirst : Bool) (composer : Composer) : Option Composer :=
  if isFirst then some composer
  else if composer.tokens.head? = some .flowEntry then some composer.skip
  else none

def flowItems (isFirst : Bool) : (fuel : Nat) → Composer → Option (List Node × Composer)
  | 0, _ => none
  | fuel + 1, composer =>
    if composer.tokens.head? = some .flowSequenceEnd then some ([], composer.skip)
    else do
      let composer ← nextInFlow isFirst composer
      match composer.tokens with
      | .flowSequenceEnd :: _ => some ([], composer.skip)
      | .key :: _ =>
        let (entry, composer) ← flowPair fuel composer.skip
        let (items, composer) ← flowItems false fuel composer
        some (.mapping {} [entry] :: items, composer)
      | _ =>
        let (item, composer) ← node false false fuel composer
        let (items, composer) ← flowItems false fuel composer
        some (item :: items, composer)

/-- The one entry of a mapping without braces. The token in place of a missing key
is passed over. -/
def flowPair : (fuel : Nat) → Composer → Option ((Node × Node) × Composer)
  | 0, _ => none
  | fuel + 1, composer => do
    let enders : List Token := [.value, .flowEntry, .flowSequenceEnd]
    let (key, composer) ←
      if composer.tokens.head?.any enders.contains then some (emptyScalar, composer.skip)
      else node false false fuel composer
    let (value, composer) ← flowValue [.flowEntry, .flowSequenceEnd] fuel composer
    some ((key, value), composer)

/-- The value of a key inside of brackets. -/
def flowValue (enders : List Token) : (fuel : Nat) → Composer → Option (Node × Composer)
  | 0, _ => none
  | fuel + 1, composer =>
    match composer.tokens with
    | .value :: _ => nodeUnless enders false false fuel composer.skip
    | _ => some (emptyScalar, composer)

def flowEntries (isFirst : Bool) :
    (fuel : Nat) → Composer → Option (List (Node × Node) × Composer)
  | 0, _ => none
  | fuel + 1, composer =>
    if composer.tokens.head? = some .flowMappingEnd then some ([], composer.skip)
    else do
      let composer ← nextInFlow isFirst composer
      match composer.tokens with
      | .flowMappingEnd :: _ => some ([], composer.skip)
      | .key :: _ =>
        let (key, composer) ←
          nodeUnless [.value, .flowEntry, .flowMappingEnd] false false fuel composer.skip
        let (value, composer) ← flowValue [.flowEntry, .flowMappingEnd] fuel composer
        let (entries, composer) ← flowEntries false fuel composer
        some ((key, value) :: entries, composer)
      | _ =>
        let (key, composer) ← node false false fuel composer
        let (entries, composer) ← flowEntries false fuel composer
        some ((key, emptyScalar) :: entries, composer)

end

/-! ## Documents -/

/-- The tokens that begin a document which says so. -/
def beginsDocument : Token → Bool
  | .version .. | .handle .. | .documentStart => true
  | _ => false

/-- What has been read of the directives of a document. -/
structure Directives where
  hasVersion : Bool := false
  handles : List (String × String) := []
deriving Repr

/-- Takes directives. There may be one version, and a handle may be named once. -/
def takeDirectives : (tokens : List Token) → Directives → Option (Directives × List Token)
  | .version major minor :: tokens, directives =>
    if directives.hasVersion || major ≠ 1 || !(minor = 1 || minor = 2) then none
    else takeDirectives tokens { directives with hasVersion := true }
  | .handle name start :: tokens, directives =>
    if directives.handles.any fun entry => entry.1 = name then none
    else takeDirectives tokens { directives with handles := (name, start) :: directives.handles }
  | tokens, directives => some (directives, tokens)

/-- The handles that need not be named. -/
def defaultHandles : List (String × String) :=
  [("!", "!"), ("!!", "tag:yaml.org,2002:")]

/-- Takes the beginning of a document. -/
def begin? (tokens : List Token) : Option Composer :=
  if tokens.head?.any beginsDocument then do
    let (directives, tokens) ← takeDirectives tokens {}
    if tokens.head? = some .documentStart then
      some { tokens := tokens.tail, handles := directives.handles ++ defaultHandles }
    else
      none
  else
    some { tokens, handles := defaultHandles }

/-- Whether no node follows the beginning of a document that says so. -/
def isAtDocumentEnd : Token → Bool
  | .documentEnd | .streamEnd => true
  | token => beginsDocument token

/-- The node that is the one document of a stream. -/
def document? (tokens : List Token) : Option Node := do
  let isExplicit := tokens.head?.any beginsDocument
  if tokens.head? = some .streamEnd then none
  else
    let composer ← begin? tokens
    let fuel := 4 * tokens.length + 4
    let (root, composer) ←
      if isExplicit && composer.tokens.head?.any isAtDocumentEnd then some (emptyScalar, composer)
      else node true false fuel composer
    if composer.tokens.dropWhile (· = .documentEnd) = [.streamEnd] then some root else none

end Composer

/-- The node that a text spells as its only document. -/
def Node.ofText? (text : String) : Option Node := do
  Composer.document? (← tokens? text)

end PromptRelay.Yaml
