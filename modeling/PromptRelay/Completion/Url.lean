import PromptRelay.Text.Bytes
import PromptRelay.Text.Letters
import PromptRelay.Text.Pieces

/-!
Contract: the addresses that requests are sent to.

Owns:
- reading the text of an `http` or `https` address;
- the path and query as they are sent: without dot segments, and with escapes in
  place of what they may not hold.

Does not own: which hosts there are.
-/

namespace PromptRelay.Completion

open Text

/-- An address in parts. The query begins with its mark, unless there is none. -/
structure Url where
  isSecure : Bool
  /-- The host, with a port if one is named. -/
  authority : String
  path : String
  query : String
deriving DecidableEq, Repr

namespace Url

/-! ## Escapes -/

def upperHexDigit (n : Nat) : Char :=
  if n < 10 then Char.ofNat ('0'.toNat + n) else Char.ofNat ('A'.toNat + (n - 10))

def escapeOctet (octet : UInt8) : List Char :=
  ['%', upperHexDigit (octet.toNat / 16), upperHexDigit (octet.toNat % 16)]

/-- Escapes control characters, what is not ASCII, and the given characters. -/
def escape (reserved : String) (cs : List Char) : List Char :=
  cs.flatMap fun c =>
    if c.toNat < 0x20 || 0x7E < c.toNat || reserved.toList.contains c then
      (bytes (String.ofList [c])).flatMap escapeOctet
    else
      [c]

def reservedInPath : String := " \"#<>?\x60\x7b\x7d"

def reservedInQuery : String := " \"#<>'"

/-! ## Paths -/

/-- A text in which the escape of a point counts as a point. -/
def plainDots : List Char → List Char
  | '%' :: '2' :: 'e' :: rest => '.' :: plainDots rest
  | '%' :: '2' :: 'E' :: rest => '.' :: plainDots rest
  | c :: rest => c :: plainDots rest
  | [] => []

/-- Adds segments to a path, latest first. One point stays, two points lead one
segment up; at the end both leave an empty segment. -/
def walk (path : List (List Char)) : List (List Char) → List (List Char)
  | [] => path
  | segment :: rest =>
    let dots := plainDots segment
    let moved := if dots = ['.', '.'] then path.tail
      else if dots = ['.'] then path
      else escape reservedInPath segment :: path
    let isDots := dots = ['.'] || dots = ['.', '.']
    if isDots && rest.isEmpty then [] :: moved else walk moved rest

def isSlash (c : Char) : Bool :=
  c == '/' || c == '\\'

/-- The path that a text behind the authority spells. -/
def pathOf (cs : List Char) : String :=
  let segments := split '/' ((cs.map fun c => if c = '\\' then '/' else c).drop 1)
  String.ofList ((walk [] segments).reverse.flatMap ('/' :: ·))

/-! ## Addresses -/

/-- Whether an address passes over a character at its ends. -/
def isOuter (c : Char) : Bool :=
  c.toNat ≤ 0x20

/-- The characters of an address: without blanks around it and without tabs and
line breaks. -/
def cleaned (text : String) : List Char :=
  let cs := text.toList.dropWhile isOuter
  (cs.reverse.dropWhile isOuter).reverse.filter fun c => c ≠ '\t' && c ≠ '\n' && c ≠ '\r'

/-- What follows the scheme, and whether it is the secure one. -/
def takeScheme? (cs : List Char) : Option (Bool × List Char) :=
  let scheme := (cs.takeWhile (· ≠ ':')).map Char.toLower
  let rest := cs.drop scheme.length
  if scheme = "http".toList then some (false, rest.tail)
  else if scheme = "https".toList then some (true, rest.tail)
  else none

/-- The address that a text spells, if it names one of the two schemes and a
host. -/
def ofText? (text : String) : Option Url := do
  let (isSecure, rest) ← takeScheme? (cleaned text)
  let rest := rest.dropWhile isSlash
  let authority := rest.takeWhile fun c => !isSlash c && c ≠ '?' && c ≠ '#'
  let rest := rest.drop authority.length
  let path := rest.takeWhile fun c => c ≠ '?' && c ≠ '#'
  let query := (rest.drop path.length).takeWhile (· ≠ '#')
  if authority.isEmpty then none
  else some {
    isSecure
    authority := String.ofList authority
    path := pathOf path
    query := String.ofList (escape reservedInQuery query) }

/-- What is asked of the host. -/
def target (url : Url) : String :=
  url.path ++ url.query

end Url

end PromptRelay.Completion
