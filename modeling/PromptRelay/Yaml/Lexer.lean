import PromptRelay.Yaml.Token

/-!
Contract: the tokens of a whole stream of YAML documents.

Owns:
- the columns of the blocks that are open, and the tokens that open and close
  them;
- keys without a mark of their own, which are known to be keys only at the colon
  that follows them;
- which token stands where.

Does not own: how tokens form nodes.
-/

namespace PromptRelay.Yaml

/-- A place where a key may have begun. -/
structure KeyStart where
  /-- Which token the key begins with. -/
  number : Nat
  /-- Whether a key has to begin here. -/
  isRequired : Bool
  index : Nat
  line : Nat
  column : Nat
deriving Repr

/-- A token and those that turned out to stand before it. -/
structure Placed where
  before : List Token := []
  token : Token
deriving Repr

/-- How far the tokens are read. -/
structure Lexer where
  cursor : Cursor
  /-- The tokens, latest first. -/
  produced : List Placed := []
  count : Nat := 0
  /-- The column of the innermost block, or minus one. -/
  indent : Int := -1
  /-- The columns of the blocks around it. -/
  outer : List Int := []
  mayStartKey : Bool := true
  /-- Where a key may have begun, for each flow collection and for the blocks. -/
  keys : List (Option KeyStart) := [none]
deriving Repr

namespace Lexer

def isInFlow (lexer : Lexer) : Bool :=
  1 < lexer.keys.length

def put (token : Token) (lexer : Lexer) : Lexer :=
  { lexer with produced := { token } :: lexer.produced, count := lexer.count + 1 }

/-! ## Keys -/

/-- Forgets where a key may have begun. A required one must not be forgotten. -/
def dropKey (lexer : Lexer) : Option Lexer :=
  match lexer.keys with
  | some start :: outer =>
    if start.isRequired then none else some { lexer with keys := none :: outer }
  | _ => some lexer

/-- The longest key, in characters. -/
def longestKey : Nat := 1024

/-- Whether a key that began there would have to be over. -/
def isStale (lexer : Lexer) (start : KeyStart) : Bool :=
  start.line < lexer.cursor.line || start.index + longestKey < lexer.cursor.index

/-- Forgets the keys that would have to be over. -/
def dropStaleKeys (lexer : Lexer) : Option Lexer := do
  let keys ← lexer.keys.mapM fun key =>
    match key with
    | some start =>
      if lexer.isStale start then (if start.isRequired then none else some none)
      else some (some start)
    | none => some none
  some { lexer with keys }

/-- Remembers that a key may begin here. -/
def saveKey (lexer : Lexer) : Option Lexer := do
  if !lexer.mayStartKey then some lexer
  else
    let lexer ← lexer.dropKey
    let start : KeyStart := {
      number := lexer.count
      isRequired := !lexer.isInFlow && lexer.indent = lexer.cursor.column
      index := lexer.cursor.index
      line := lexer.cursor.line
      column := lexer.cursor.column }
    some { lexer with keys := some start :: lexer.keys.tail }

/-! ## Blocks -/

/-- Opens a block at a column that lies further in. -/
def openBlock (token : Token) (column : Nat) (lexer : Lexer) : Lexer :=
  if !lexer.isInFlow && lexer.indent < column then
    { lexer with indent := column, outer := lexer.indent :: lexer.outer }.put token
  else
    lexer

/-- Closes the blocks that lie further in than a column. -/
def closeBlocks (column : Int) (lexer : Lexer) : Lexer :=
  if lexer.isInFlow then lexer else close lexer.outer lexer
where
  close : (outer : List Int) → Lexer → Lexer
    | [], lexer => lexer
    | indent :: outer, lexer =>
      if column < lexer.indent then
        close outer ({ lexer with indent, outer }.put .blockEnd)
      else
        lexer

/-- Puts tokens before the token of the given number. -/
def putBefore (number : Nat) (tokens : List Token) (lexer : Lexer) : Lexer :=
  { lexer with
    produced := lexer.produced.modify (lexer.count - number - 1) fun placed =>
      { placed with before := tokens ++ placed.before } }

/-! ## Tokens -/

def skip (count : Nat) (lexer : Lexer) : Lexer :=
  { lexer with cursor := lexer.cursor.skip count }

/-- Passes over blanks, comments and line breaks. Tabs are passed over where no
key may begin. `fuel` bounds the number of lines. -/
def skipGaps : (fuel : Nat) → Lexer → Lexer
  | 0, lexer => lexer
  | fuel + 1, lexer =>
    let cursor := lexer.cursor
    let cursor := if cursor.column = 0 && cursor.rest.head? = some '\ufeff' then cursor.skip 1
      else cursor
    let allowsTabs := lexer.isInFlow || !lexer.mayStartKey
    let cursor := cursor.skipWhile fun c => c == ' ' || (allowsTabs && c == '\t')
    let cursor := if cursor.rest.head? = some '#' then cursor.skipWhile (fun c => !isBreak c)
      else cursor
    match cursor.newLine? with
    | some (_, next) =>
      skipGaps fuel { lexer with
        cursor := next
        mayStartKey := lexer.mayStartKey || !lexer.isInFlow }
    | none => { lexer with cursor }

/-- Leaves all blocks, as directives and document marks do. -/
def leaveBlocks (lexer : Lexer) : Option Lexer := do
  let lexer ← (lexer.closeBlocks (-1)).dropKey
  some { lexer with mayStartKey := false }

def finish (lexer : Lexer) : Option Lexer := do
  let lexer ← lexer.leaveBlocks
  some (lexer.put .streamEnd)

def openFlow (token : Token) (lexer : Lexer) : Option Lexer := do
  let lexer ← lexer.saveKey
  some ({ lexer with keys := none :: lexer.keys, mayStartKey := true }.put token |>.skip 1)

def closeFlow (token : Token) (lexer : Lexer) : Option Lexer := do
  let lexer ← lexer.dropKey
  let keys := if lexer.isInFlow then lexer.keys.tail else lexer.keys
  some ({ lexer with keys, mayStartKey := false }.put token |>.skip 1)

def flowEntry (lexer : Lexer) : Option Lexer := do
  let lexer ← lexer.dropKey
  some ({ lexer with mayStartKey := true }.put .flowEntry |>.skip 1)

def blockEntry (lexer : Lexer) : Option Lexer := do
  if !lexer.isInFlow && !lexer.mayStartKey then none
  else
    let lexer ← (lexer.openBlock .blockSequence lexer.cursor.column).dropKey
    some ({ lexer with mayStartKey := true }.put .blockEntry |>.skip 1)

def markedKey (lexer : Lexer) : Option Lexer := do
  if !lexer.isInFlow && !lexer.mayStartKey then none
  else
    let lexer ← (lexer.openBlock .blockMapping lexer.cursor.column).dropKey
    some ({ lexer with mayStartKey := !lexer.isInFlow }.put .key |>.skip 1)

/-- A colon. What may have been a key before it is one. -/
def value (lexer : Lexer) : Option Lexer :=
  match lexer.keys with
  | some start :: outer =>
    let isOpening := !lexer.isInFlow && lexer.indent < start.column
    let lexer := if isOpening then
        { lexer with indent := start.column, outer := lexer.indent :: lexer.outer }
      else lexer
    let tokens := if isOpening then [.blockMapping, .key] else [.key]
    let lexer := lexer.putBefore start.number tokens
    some ({ lexer with keys := none :: outer, mayStartKey := false }.put .value |>.skip 1)
  | _ =>
    if lexer.isInFlow then
      some ({ lexer with mayStartKey := false }.put .value |>.skip 1)
    else if !lexer.mayStartKey then none
    else
      let lexer := lexer.openBlock .blockMapping lexer.cursor.column
      some ({ lexer with mayStartKey := true }.put .value |>.skip 1)

/-- A token that may begin a key. -/
def keyPart (scan : Cursor → Option (Token × Cursor)) (lexer : Lexer) : Option Lexer := do
  let lexer ← lexer.saveKey
  let (token, cursor) ← scan lexer.cursor
  some ({ lexer with cursor, mayStartKey := false }.put token)

def plain (lexer : Lexer) : Option Lexer := do
  let lexer ← lexer.saveKey
  let found ← scanPlain lexer.isInFlow (lexer.indent + 1).toNat lexer.cursor
  let token := Token.scalar (String.ofList found.text) true
  some ({ lexer with cursor := found.next, mayStartKey := found.isBroken }.put token)

def block (isLiteral : Bool) (lexer : Lexer) : Option Lexer := do
  let lexer ← lexer.dropKey
  let (text, cursor) ← scanBlock lexer.indent isLiteral lexer.cursor
  some ({ lexer with cursor, mayStartKey := true }.put (.scalar (String.ofList text) false))

def quoted (quote : Char) : Lexer → Option Lexer :=
  keyPart fun cursor => do
    let (text, cursor) ← scanQuoted quote cursor
    some (.scalar (String.ofList text) false, cursor)

/-- The characters that begin no plain scalar, unless a rule of their own allows
it. -/
def isIndicator (c : Char) : Bool :=
  "-?:,[]\x7b\x7d#&*!|>'\"%@\x60".toList.contains c

/-- Whether a plain scalar may begin here. -/
def startsPlain (isInFlow : Bool) (c : Char) (rest : List Char) : Bool :=
  !(isGap c || isIndicator c) ||
    (c == '-' && !(rest.head?.any isSpaceOrTab)) ||
    (!isInFlow && (c == '?' || c == ':') && !endsWord rest)

/-- The next token at a place where one begins. -/
def token (c : Char) (rest : List Char) (lexer : Lexer) : Option Lexer :=
  let cursor := lexer.cursor
  if cursor.column = 0 && c = '%' then do
    let lexer ← lexer.leaveBlocks
    let (token, cursor) ← scanDirective lexer.cursor
    some ({ lexer with cursor }.put token)
  else if cursor.isAtDocumentMark then do
    let lexer ← lexer.leaveBlocks
    some (lexer.put (if c = '-' then .documentStart else .documentEnd) |>.skip 3)
  else if c = '[' then lexer.openFlow .flowSequence
  else if c = '\x7b' then lexer.openFlow .flowMapping
  else if c = ']' then lexer.closeFlow .flowSequenceEnd
  else if c = '\x7d' then lexer.closeFlow .flowMappingEnd
  else if c = ',' then lexer.flowEntry
  else if c = '-' && endsWord rest then lexer.blockEntry
  else if c = '?' && (lexer.isInFlow || endsWord rest) then lexer.markedKey
  else if c = ':' && (lexer.isInFlow || endsWord rest) then lexer.value
  else if c = '*' then lexer.keyPart fun cursor =>
    (scanAnchor cursor).map fun found => (.alias found.1, found.2)
  else if c = '&' then lexer.keyPart fun cursor =>
    (scanAnchor cursor).map fun found => (.anchor found.1, found.2)
  else if c = '!' then lexer.keyPart (scanTag lexer.isInFlow)
  else if c = '|' && !lexer.isInFlow then lexer.block true
  else if c = '>' && !lexer.isInFlow then lexer.block false
  else if c = '\'' || c = '"' then lexer.quoted c
  else if startsPlain lexer.isInFlow c rest then lexer.plain
  else none

/-- Reads tokens to the end of the text. `fuel` bounds their number. -/
def run : (fuel : Nat) → Lexer → Option Lexer
  | 0, _ => none
  | fuel + 1, lexer => do
    let lexer ← (lexer.skipGaps (lexer.cursor.rest.length + 1)).dropStaleKeys
    let lexer := lexer.closeBlocks lexer.cursor.column
    match lexer.cursor.rest with
    | [] => lexer.finish
    | c :: rest => run fuel (← lexer.token c rest)

end Lexer

/-- The tokens of a text, if all of its characters are printable and each of them
begins or continues a token. -/
def tokens? (text : String) : Option (List Token) := do
  let cs := match text.toList with
    | '\ufeff' :: rest => rest
    | cs => cs
  if cs.all isPrintable then
    let lexer ← Lexer.run (cs.length + 2) { cursor := Cursor.start cs }
    some (lexer.produced.reverse.flatMap fun placed => placed.before ++ [placed.token])
  else
    none

end PromptRelay.Yaml
