import PromptRelay.Toml.Scalar

/-!
Contract: TOML documents, from their text to the table they define.

Owns:
- arrays and inline tables, nested up to a limit;
- keys, and the three kinds of line: a header, an array header, a member;
- which definitions may follow one another: a table is defined once, by a
  header or by dotted keys, and values are never extended.

Does not own: the meaning of any key.
-/

namespace PromptRelay.Toml

open Text

/-! ## Tables under construction -/

/-- How a table came to be. -/
inductive Origin where
  /-- A header or an inline table defined it. -/
  | defined
  /-- It lies on the way of a header to a deeper table. -/
  | passed
  /-- Dotted keys defined it. -/
  | dotted
deriving DecidableEq, Repr

mutual

/-- What a key of a table under construction leads to. -/
inductive Node where
  | value (value : Value)
  | table (table : Table)
  /-- The tables that array headers have added, the latest first. -/
  | tables (latest : Table) (earlier : List Table)

inductive Table where
  | mk (origin : Origin) (members : List (String × Node))

end

namespace Table

def origin : Table → Origin
  | .mk origin _ => origin

def members : Table → List (String × Node)
  | .mk _ members => members

def empty (origin : Origin) : Table := .mk origin []

/-- Puts a node at a key, in place of the one that is there. -/
def put (key : String) (node : Node) (table : Table) : Table :=
  if table.members.any (·.1 == key) then
    .mk table.origin (table.members.map fun entry =>
      if entry.1 == key then (key, node) else entry)
  else
    .mk table.origin (table.members ++ [(key, node)])

/-- Changes the table at the end of a path. Tables that are missing on the way
are made with the given origin. Dotted keys do not enter a table that is defined
already; an array of tables is entered at its latest one. -/
def descend (making : Origin) (change : Table → Option Table) :
    (path : List String) → Table → Option Table
  | [], table => change table
  | key :: path, table =>
    match table.members.lookup key with
    | none => do
      some (table.put key (.table (← descend making change path (empty making))))
    | some (.value _) => none
    | some (.tables latest earlier) => do
      some (table.put key (.tables (← descend making change path latest) earlier))
    | some (.table inner) =>
      if making = .dotted && inner.origin = .defined then none
      else do some (table.put key (.table (← descend making change path inner)))

/-- Defines a member. The table has to be open for it: dotted keys add to tables
that dotted keys made, plain keys to all others. -/
def define (isDotted : Bool) (key : String) (value : Value) (table : Table) : Option Table :=
  if (table.origin = .dotted) = isDotted && (table.members.lookup key).isNone then
    some (table.put key (.value value))
  else
    none

/-- Defines the member at the end of a path of keys. -/
def defineAt (path : List String) (key : String) (value : Value) (table : Table) :
    Option Table :=
  table.descend .dotted (define (!path.isEmpty) key value) path

/-- Opens a table by its header: it may have been passed before, not defined. -/
def openTable (key : String) (table : Table) : Option Table :=
  match table.members.lookup key with
  | none => some (table.put key (.table (empty .defined)))
  | some (.table (.mk .passed members)) => some (table.put key (.table (.mk .defined members)))
  | some _ => none

/-- Adds a table to an array of tables. -/
def addTable (key : String) (table : Table) : Option Table :=
  match table.members.lookup key with
  | none => some (table.put key (.tables (empty .defined) []))
  | some (.tables latest earlier) =>
    some (table.put key (.tables (empty .defined) (latest :: earlier)))
  | some _ => none

end Table

mutual

def Node.toValue : Node → Value
  | .value value => value
  | .table table => table.toValue
  | .tables latest earlier => .array (Table.toValues earlier [latest.toValue])

def Table.toValue : Table → Value
  | .mk _ members => .table (Table.toMembers members)

def Table.toMembers : List (String × Node) → List (String × Value)
  | [] => []
  | (key, node) :: members => (key, node.toValue) :: Table.toMembers members

/-- The values of tables in the order they were added. -/
def Table.toValues : List Table → List Value → List Value
  | [], values => values
  | table :: tables, values => Table.toValues tables (table.toValue :: values)

end

/-! ## Keys -/

def isKeyChar (c : Char) : Bool :=
  isDigit c || ('a' ≤ c && c ≤ 'z') || ('A' ≤ c && c ≤ 'Z') || c == '_' || c == '-'

def scanSimpleKey : Scanner String := fun cs =>
  match cs with
  | [] => none
  | c :: _ =>
    if c = '"' || c = '\'' then scanLineString cs
    else if isKeyChar c then
      some (String.ofList (cs.takeWhile isKeyChar), cs.dropWhile isKeyChar)
    else none

/-- How deep values and keys may nest. -/
def nestingLimit : Nat := 80

/-- A key with its parts between dots, blanks around them aside. -/
def scanKeyParts : (fuel : Nat) → Scanner (List String)
  | 0, _ => none
  | fuel + 1, cs => do
    let (part, rest) ← scanSimpleKey (skipSpace cs)
    match skipSpace rest with
    | '.' :: rest => do
      let (parts, rest) ← scanKeyParts fuel rest
      some (part :: parts, rest)
    | rest => some ([part], rest)

def scanKey : Scanner (List String) := fun cs => do
  let (parts, rest) ← scanKeyParts cs.length cs
  if parts.length < nestingLimit then some (parts, rest) else none

/-! ## Values -/

/-- What follows a comment, if the text begins with one, or else the text. -/
def skipComment : List Char → List Char
  | '#' :: rest => rest.dropWhile isPlain
  | rest => rest

/-- Passes over blanks, comments and line breaks. -/
def skipFiller : (fuel : Nat) → List Char → List Char
  | 0, cs => cs
  | fuel + 1, cs =>
    let rest := skipSpace cs
    match rest with
    | '#' :: comment =>
      match newline? (comment.dropWhile isPlain) with
      | some rest => skipFiller fuel rest
      | none => rest
    | rest =>
      match newline? rest with
      | some rest => skipFiller fuel rest
      | none => rest

/-- The items of an array, after its opening bracket. -/
def scanItems (scan : Scanner Value) : (fuel : Nat) → Scanner (List Value)
  | 0, _ => none
  | fuel + 1, cs =>
    match skipFiller cs.length cs with
    | ']' :: rest => some ([], rest)
    | cs => do
      let (item, rest) ← scan cs
      match skipFiller rest.length rest with
      | ',' :: rest => do
        let (items, rest) ← scanItems scan fuel rest
        some (item :: items, rest)
      | ']' :: rest => some ([item], rest)
      | _ => none

/-- A key, an equals sign and a value. -/
def scanMember (scan : Scanner Value) : Scanner (List String × Value) := fun cs => do
  let (key, rest) ← scanKey cs
  match skipSpace rest with
  | '=' :: rest => do
    let (value, rest) ← scan (skipSpace rest)
    some ((key, value), rest)
  | _ => none

/-- The members of an inline table up to its closing brace. -/
def scanInline (scan : Scanner Value) : (fuel : Nat) → Table → Scanner Table
  | 0, _, _ => none
  | fuel + 1, table, cs => do
    let ((key, value), rest) ← scanMember scan cs
    let table ← table.defineAt key.dropLast (key.getLastD "") value
    match skipSpace rest with
    | ',' :: rest => scanInline scan fuel table rest
    | '\x7d' :: rest => some (table, rest)
    | _ => none

/-- A value that nests at most `depth` arrays and inline tables. -/
def scanValue : (depth : Nat) → Scanner Value
  | 0, cs =>
    match cs with
    | '[' :: _ => none
    | '\x7b' :: _ => none
    | cs => scanScalar cs
  | depth + 1, cs =>
    match cs with
    | '[' :: rest => do
      let (items, rest) ← scanItems (scanValue depth) (rest.length + 1) rest
      some (.array items, rest)
    | '\x7b' :: rest =>
      match skipSpace rest with
      | '\x7d' :: rest => some (.table [], rest)
      | rest => do
        let (table, rest) ←
          scanInline (scanValue depth) (rest.length + 1) (Table.empty .defined) rest
        some (table.toValue, rest)
    | cs => scanScalar cs

/-! ## Lines -/

/-- The table that members are added to: the root, or the one of the last
header. -/
structure State where
  root : Table
  current : List String

/-- The end of a line: blanks, a comment, and a line break or the end of the
text. -/
def endLine? (cs : List Char) : Option (List Char) :=
  let rest := skipComment (skipSpace cs)
  match rest with
  | [] => some []
  | rest => newline? rest

/-- Takes one line, blank lines included. -/
def scanLine (state : State) (cs : List Char) : Option (State × List Char) :=
  match skipSpace cs with
  | '[' :: '[' :: rest => do
    let (key, rest) ← scanKey rest
    let rest ← after? [']', ']'] rest
    let root ← state.root.descend .passed (Table.addTable (key.getLastD "")) key.dropLast
    some (⟨root, key⟩, ← endLine? rest)
  | '[' :: rest => do
    let (key, rest) ← scanKey rest
    let rest ← after? [']'] rest
    let root ← state.root.descend .passed (Table.openTable (key.getLastD "")) key.dropLast
    some (⟨root, key⟩, ← endLine? rest)
  | cs =>
    match endLine? cs with
    | some rest => some (state, rest)
    | none => do
      let ((key, value), rest) ← scanMember (scanValue (nestingLimit - 1)) cs
      let add := Table.defineAt key.dropLast (key.getLastD "") value
      let root ← state.root.descend .passed add state.current
      some ({ state with root := root }, ← endLine? rest)

/-- Takes the lines of a document up to its end. `fuel` bounds their number. -/
def scanLines : (fuel : Nat) → State → List Char → Option Table
  | _, state, [] => some state.root
  | 0, _, _ :: _ => none
  | fuel + 1, state, cs => do
    let (state, rest) ← scanLine state cs
    scanLines fuel state rest

/-- The table that a document defines. A byte order mark may come first. -/
def parse (document : String) : Option Value :=
  let cs := match document.toList with
    | '\uFEFF' :: rest => rest
    | cs => cs
  (scanLines (cs.length + 1) ⟨Table.empty .defined, []⟩ cs).map Table.toValue

end PromptRelay.Toml
