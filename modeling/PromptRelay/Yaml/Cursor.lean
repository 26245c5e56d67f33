import PromptRelay.Text.Letters
import PromptRelay.Text.Pieces

/-!
Contract: a place in the text of a YAML document.

Owns:
- the characters that a document may hold, its line breaks and its blanks;
- moving over characters and line breaks while keeping count of lines, columns
  and characters.

Does not own: tokens.
-/

namespace PromptRelay.Yaml

open Text

/-! ## Characters -/

/-- The characters that a document may hold. -/
def isPrintable (c : Char) : Bool :=
  let n := c.toNat
  n == 0x09 || n == 0x0A || n == 0x0D || (0x20 ≤ n && n ≤ 0x7E) || n == 0x85 ||
    (0xA0 ≤ n && n ≤ 0xD7FF) || (0xE000 ≤ n && n ≤ 0xFFFD) || 0x10000 ≤ n

def isBreak (c : Char) : Bool :=
  c == '\r' || c == '\n' || c == '\x85' || c == '\u2028' || c == '\u2029'

def isSpaceOrTab (c : Char) : Bool :=
  c == ' ' || c == '\t'

def isGap (c : Char) : Bool :=
  isSpaceOrTab c || isBreak c

/-- Letters, digits, low lines and dashes. -/
def isWordPart (c : Char) : Bool :=
  isDigit c || ('a' ≤ c && c ≤ 'z') || ('A' ≤ c && c ≤ 'Z') || c == '_' || c == '-'

/-- Whether the text ends here, or with a blank or a line break. -/
def endsWord : List Char → Bool
  | [] => true
  | c :: _ => isGap c

/-! ## Places -/

structure Cursor where
  rest : List Char
  index : Nat
  line : Nat
  column : Nat
deriving Repr

namespace Cursor

def start (text : List Char) : Cursor :=
  { rest := text, index := 0, line := 0, column := 0 }

/-- Moves over characters of one line. -/
def skip (count : Nat) (cursor : Cursor) : Cursor :=
  { cursor with
    rest := cursor.rest.drop count
    index := cursor.index + count
    column := cursor.column + count }

/-- The characters of one line up to the first that is not of the class. -/
def takeWhile (isMember : Char → Bool) (cursor : Cursor) : List Char × Cursor :=
  let taken := cursor.rest.takeWhile isMember
  (taken, cursor.skip taken.length)

def skipWhile (isMember : Char → Bool) (cursor : Cursor) : Cursor :=
  (cursor.takeWhile isMember).2

/-- The line break that stands here as it is read, and the place after it. -/
def newLine? (cursor : Cursor) : Option (List Char × Cursor) :=
  let next (count : Nat) (rest : List Char) : Cursor :=
    { rest, index := cursor.index + count, line := cursor.line + 1, column := 0 }
  match cursor.rest with
  | '\r' :: '\n' :: rest => some (['\n'], next 2 rest)
  | c :: rest =>
    if c = '\u2028' || c = '\u2029' then some ([c], next 1 rest)
    else if isBreak c then some (['\n'], next 1 rest)
    else none
  | [] => none

/-- Whether the line begins with a mark between documents. -/
def isAtDocumentMark (cursor : Cursor) : Bool :=
  cursor.column = 0 &&
    match cursor.rest with
    | '-' :: '-' :: '-' :: rest => endsWord rest
    | '.' :: '.' :: '.' :: rest => endsWord rest
    | _ => false

/-- The rest of a line that holds a comment at most, its line break included. -/
def finishLine? (cursor : Cursor) : Option Cursor :=
  let cursor := cursor.skipWhile isSpaceOrTab
  let cursor := if cursor.rest.head? = some '#' then cursor.skipWhile (fun c => !isBreak c)
    else cursor
  match cursor.newLine? with
  | some (_, cursor) => some cursor
  | none => if cursor.rest.isEmpty then some cursor else none

end Cursor

end PromptRelay.Yaml
