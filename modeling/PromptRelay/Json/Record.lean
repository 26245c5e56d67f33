import PromptRelay.Json.Reader

/-!
Contract: reading values of a known shape.

Owns:
- strings, optional values, choices between names, and lists;
- records, which are written as objects with members in any order or as lists
  with the members in their declared order;
- the rule that unknown members are skipped and known ones may not repeat;
- reading a whole text as one value.

Does not own: which records there are.
-/

namespace PromptRelay.Json

open Text (Bytes)

def readString : Reader String := fun input =>
  match skipSpace input with
  | [] => .error .truncated
  | byte :: rest =>
    if byte = quote then readQuoted rest else .error (unwanted (byte :: rest))

/-- `null`, or a value. -/
def readOptional (read : Reader α) : Reader (Option α) := fun input =>
  match skipSpace input with
  | [] => .error .truncated
  | byte :: rest =>
    if byte = letterN then do
      .ok (none, ← expect nullTail rest)
    else do
      let (value, rest) ← read (byte :: rest)
      .ok (some value, rest)

def readNull (input : Bytes) : Except Fault Bytes :=
  match skipSpace input with
  | [] => .error .truncated
  | byte :: rest =>
    if byte = letterN then expect nullTail rest else .error (unwanted (byte :: rest))

/-- Takes the given byte, blanks before it aside. -/
def readMark (mark : UInt8) (input : Bytes) : Except Fault Bytes :=
  match skipSpace input with
  | [] => .error .truncated
  | byte :: rest => if byte = mark then .ok rest else .error .malformed

/-- One of the names, as a string or as an object with that name as the only
member and `null` as its value. -/
def readChoice (choices : List (String × α)) : Reader α := fun input =>
  let choose (name : String) : Except Fault α :=
    match choices.lookup name with
    | some value => .ok value
    | none => .error .mismatched
  match skipSpace input with
  | [] => .error .truncated
  | byte :: rest =>
    if byte = quote then do
      let (name, rest) ← readQuoted rest
      .ok (← choose name, rest)
    else if byte = openObject then do
      let (name, rest) ← readString rest
      let value ← choose name
      let rest ← readMark colon rest
      let rest ← readNull rest
      .ok (value, ← readMark closeObject rest)
    else
      .error .malformed

/-! ## Lists -/

/-- Goes to the next item of a list: the bytes of the item, or the bytes after
the closing bracket. -/
inductive Step where
  | item (rest : Bytes)
  | closed (rest : Bytes)
deriving DecidableEq, Repr

def nextItem (isFirst : Bool) (input : Bytes) : Except Fault Step :=
  match skipSpace input with
  | [] => .error .truncated
  | byte :: rest =>
    if byte = closeList then
      .ok (.closed rest)
    else if isFirst then
      .ok (.item (byte :: rest))
    else if byte = comma then
      match skipSpace rest with
      | [] => .error .truncated
      | next :: rest =>
        if next = closeList then .error .malformed else .ok (.item (next :: rest))
    else
      .error .malformed

/-- Reads the items of a list up to its closing bracket. `fuel` bounds their
number. -/
def readItems (read : Reader α) : (fuel : Nat) → (isFirst : Bool) → Reader (List α)
  | 0, _, _ => .error .truncated
  | fuel + 1, isFirst, input => do
    match ← nextItem isFirst input with
    | .closed rest => .ok ([], rest)
    | .item rest =>
      let (item, rest) ← read rest
      let (items, rest) ← readItems read fuel false rest
      .ok (item :: items, rest)

def readList (read : Reader α) : Reader (List α) := fun input =>
  match skipSpace input with
  | [] => .error .truncated
  | byte :: rest =>
    if byte = openList then
      readItems read (rest.length + 1) true rest
    else
      .error (unwanted (byte :: rest))

/-! ## Records -/

/-- One member of a record that is read into a draft of type `σ`. -/
structure Field (σ : Type) where
  name : String
  /-- Whether the draft has the member already. -/
  isSet : σ → Bool
  read : σ → Reader σ
  /-- Whether a list may end before this member. -/
  mayLack : Bool

/-- A record: its members in declared order, the empty draft, and the value that
a draft amounts to. -/
structure Record (σ α : Type) where
  fields : List (Field σ)
  draft : σ
  finish : σ → Option α

/-- Reads a record's members from a list, which holds all of them in order save
for those at its end that it may lack, and nothing else. -/
def readPositions : (fields : List (Field σ)) → (isFirst : Bool) → σ → Reader σ
  | [], _, draft, input => do
    .ok (draft, ← readMark closeList input)
  | field :: fields, isFirst, draft, input => do
    match ← nextItem isFirst input with
    | .item rest =>
      let (draft, rest) ← field.read draft rest
      readPositions fields false draft rest
    | .closed rest =>
      if (field :: fields).all (·.mayLack) then .ok (draft, rest) else .error .mismatched

/-- Goes to the next member of an object: the bytes after the opening quote of
its name, or the bytes after the closing brace. -/
def nextMember (isFirst : Bool) (input : Bytes) : Except Fault Step :=
  match skipSpace input with
  | [] => .error .truncated
  | byte :: rest =>
    if byte = closeObject then
      .ok (.closed rest)
    else if isFirst then
      if byte = quote then .ok (.item rest) else .error .malformed
    else if byte = comma then
      match skipSpace rest with
      | [] => .error .truncated
      | next :: rest => if next = quote then .ok (.item rest) else .error .malformed
    else
      .error .malformed

/-- Reads a record's members from an object up to its closing brace. `fuel`
bounds their number. -/
def readMembers (fields : List (Field σ)) :
    (fuel : Nat) → (isFirst : Bool) → σ → Reader σ
  | 0, _, _, _ => .error .truncated
  | fuel + 1, isFirst, draft, input => do
    match ← nextMember isFirst input with
    | .closed rest => .ok (draft, rest)
    | .item rest =>
      let (name, rest) ← readQuoted rest
      match fields.find? (·.name == name) with
      | none =>
        let rest ← skipValue (← readMark colon rest)
        readMembers fields fuel false draft rest
      | some field =>
        if field.isSet draft then
          .error .mismatched
        else
          let (draft, rest) ← field.read draft (← readMark colon rest)
          readMembers fields fuel false draft rest

def readRecord (record : Record σ α) : Reader α := fun input =>
  let finish (draft : σ) (rest : Bytes) : Except Fault (α × Bytes) :=
    match record.finish draft with
    | some value => .ok (value, rest)
    | none => .error .mismatched
  match skipSpace input with
  | [] => .error .truncated
  | byte :: rest =>
    if byte = openList then do
      let (draft, rest) ← readPositions record.fields true record.draft rest
      finish draft rest
    else if byte = openObject then do
      let (draft, rest) ← readMembers record.fields (rest.length + 1) true record.draft rest
      finish draft rest
    else
      .error (unwanted (byte :: rest))

/-! ## Whole texts -/

/-- Reads the bytes as one value with nothing but blanks around it. -/
def readWhole (read : Reader α) (input : Bytes) : Except Fault α := do
  let (value, rest) ← read input
  if (skipSpace rest).isEmpty then .ok value else .error .malformed

end PromptRelay.Json
