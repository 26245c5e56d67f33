import PromptRelay.Text.Bytes
import PromptRelay.Yaml.Scalar

/-!
Contract: the tokens of a YAML document that are read where they stand.

Owns:
- the kinds of tokens;
- anchors, aliases, tags and directives.

Does not own: indentation and keys, which decide where further tokens go.
-/

namespace PromptRelay.Yaml

open Text

inductive Token where
  | streamEnd
  | version (major minor : Nat)
  /-- A name for the beginning of tags. -/
  | handle (name start : String)
  | documentStart
  | documentEnd
  | blockSequence
  | blockMapping
  | blockEnd
  | flowSequence
  | flowSequenceEnd
  | flowMapping
  | flowMappingEnd
  | blockEntry
  | flowEntry
  | key
  | value
  | alias (name : String)
  | anchor (name : String)
  | tag (handle suffix : String)
  | scalar (text : String) (isPlain : Bool)
deriving DecidableEq, Repr

/-! ## Anchors -/

/-- Whether a character may follow the name of an anchor. -/
def endsAnchor : List Char → Bool
  | c :: _ => isGap c || ['?', ':', ',', ']', '\x7d', '%', '@', '\x60'].contains c
  | [] => true

/-- A name after the mark that stands here. -/
def scanAnchor (cursor : Cursor) : Option (String × Cursor) :=
  let (name, next) := (cursor.skip 1).takeWhile isWordPart
  if name.isEmpty || !endsAnchor next.rest then none else some (String.ofList name, next)

/-! ## Tags -/

/-- The handle of a tag: a mark, letters, and perhaps a second mark. A directive
has to name a whole one. -/
def scanHandle (isDirective : Bool) (cursor : Cursor) : Option (List Char × Cursor) :=
  if cursor.rest.head? ≠ some '!' then none
  else
    let (letters, next) := (cursor.skip 1).takeWhile isWordPart
    if next.rest.head? = some '!' then
      some ('!' :: letters ++ ['!'], next.skip 1)
    else if isDirective && !letters.isEmpty then none
    else some ('!' :: letters, next)

/-- The characters of a tag; marks of flow collections only in angle brackets. -/
def isTagPart (isVerbatim : Bool) (c : Char) : Bool :=
  isWordPart c || ";/?:@&=+$.!~*'()%".toList.contains c ||
    (isVerbatim && ",[]".toList.contains c)

/-- The byte that a percent sign and two digits stand for. -/
def scanOctet : List Char → Option (Nat × List Char)
  | '%' :: a :: b :: rest => do some (16 * (← hexValue? a) + (← hexValue? b), rest)
  | _ => none

/-- How many bytes a sequence has that begins with this one. -/
def octetWidth? (octet : Nat) : Option Nat :=
  if octet < 0x80 then some 1
  else if 0xC0 ≤ octet && octet < 0xE0 then some 2
  else if 0xE0 ≤ octet && octet < 0xF0 then some 3
  else if 0xF0 ≤ octet && octet < 0xF8 then some 4
  else none

/-- The bytes of a sequence that go on from its first one. -/
def scanOctets : (count : Nat) → List Char → Option (Bytes × List Char)
  | 0, cs => some ([], cs)
  | count + 1, cs => do
    let (octet, rest) ← scanOctet cs
    if octet < 0x80 || 0xC0 ≤ octet then none
    else
      let (octets, rest) ← scanOctets count rest
      some (UInt8.ofNat octet :: octets, rest)

/-- The characters of a tag, escapes in place. `fuel` bounds their number. -/
def scanTagText (isVerbatim : Bool) : (fuel : Nat) → Cursor → Option (Bytes × Cursor)
  | 0, _ => none
  | fuel + 1, cursor =>
    match cursor.rest with
    | [] => some ([], cursor)
    | c :: _ =>
      if c = '%' then do
        let (octet, rest) ← scanOctet cursor.rest
        let width ← octetWidth? octet
        let (octets, _) ← scanOctets (width - 1) rest
        let (more, next) ← scanTagText isVerbatim fuel (cursor.skip (3 * width))
        some (UInt8.ofNat octet :: octets ++ more, next)
      else if isTagPart isVerbatim c then do
        let (more, next) ← scanTagText isVerbatim fuel (cursor.skip 1)
        some (Text.bytes (String.ofList [c]) ++ more, next)
      else
        some ([], cursor)

def scanTagUri (isVerbatim : Bool) (cursor : Cursor) : Option (String × Cursor) := do
  let (octets, next) ← scanTagText isVerbatim (cursor.rest.length + 1) cursor
  some (ofBytesLossy octets, next)

/-- A tag as its handle and the rest. In angle brackets it has no handle. -/
def scanTagParts (cursor : Cursor) : Option (String × String × Cursor) :=
  match cursor.rest with
  | '!' :: '<' :: _ => do
    let (suffix, next) ← scanTagUri true (cursor.skip 2)
    if suffix.isEmpty || next.rest.head? ≠ some '>' then none
    else some ("", suffix, next.skip 1)
  | _ => do
    let (handle, next) ← scanHandle false cursor
    if 1 < handle.length && handle.getLast? = some '!' then
      let (suffix, next) ← scanTagUri false next
      if suffix.isEmpty then none else some (String.ofList handle, suffix, next)
    else
      let (more, next) ← scanTagUri false next
      let suffix := String.ofList handle.tail ++ more
      if suffix.isEmpty then some ("", "!", next) else some ("!", suffix, next)

def scanTag (isInFlow : Bool) (cursor : Cursor) : Option (Token × Cursor) := do
  let (handle, suffix, next) ← scanTagParts cursor
  if endsWord next.rest || (isInFlow && next.rest.head? = some ',') then
    some (.tag handle suffix, next)
  else
    none

/-! ## Directives -/

/-- A number of at most nine digits. -/
def scanVersionNumber (cursor : Cursor) : Option (Nat × Cursor) :=
  let (digits, next) := cursor.takeWhile isDigit
  if digits.isEmpty || 9 < digits.length then none
  else some (digits.foldl (fun value digit => 10 * value + digitValue digit) 0, next)

def scanVersion (cursor : Cursor) : Option (Token × Cursor) := do
  let (major, next) ← scanVersionNumber (cursor.skipWhile isSpaceOrTab)
  if next.rest.head? ≠ some '.' then none
  else
    let (minor, next) ← scanVersionNumber (next.skip 1)
    some (.version major minor, next)

def scanHandleDirective (cursor : Cursor) : Option (Token × Cursor) := do
  let (handle, next) ← scanHandle true (cursor.skipWhile isSpaceOrTab)
  if !next.rest.head?.any isSpaceOrTab then none
  else
    let (start, next) ← scanTagUri true (next.skipWhile isSpaceOrTab)
    if start.isEmpty || !endsWord next.rest then none
    else some (.handle (String.ofList handle) start, next)

/-- A directive, whose mark stands here, and the rest of its line. -/
def scanDirective (cursor : Cursor) : Option (Token × Cursor) := do
  let (name, next) := (cursor.skip 1).takeWhile isWordPart
  if !endsWord next.rest then none
  else
    let (token, next) ←
      if name = "YAML".toList then scanVersion next
      else if name = "TAG".toList then scanHandleDirective next
      else none
    some (token, ← next.finishLine?)

end PromptRelay.Yaml
