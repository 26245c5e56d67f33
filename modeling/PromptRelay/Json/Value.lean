import PromptRelay.Decimal.Layout

/-!
Contract: JSON values and their compact and indented texts.

Owns:
- the value type, whose objects keep the order of their members;
- the escapes of a quoted string;
- the compact writer and the writer that indents by two spaces.

Does not own: reading, and the digits of numbers that are not integers.
-/

namespace PromptRelay.Json

inductive Value where
  | null
  | boolean (value : Bool)
  | integer (value : Int)
  | float (value : Float)
  | text (value : String)
  | list (items : List Value)
  | object (members : List (String × Value))
deriving Inhabited

/-! ## Quoted strings -/

def hexDigit (n : Nat) : Char :=
  if n < 10 then Char.ofNat ('0'.toNat + n) else Char.ofNat ('a'.toNat + (n - 10))

/-- Quotes, backslashes and control characters are escaped, nothing else is. -/
def escape (c : Char) : List Char :=
  if c = '"' then ['\\', '"']
  else if c = '\\' then ['\\', '\\']
  else if c = '\x08' then ['\\', 'b']
  else if c = '\t' then ['\\', 't']
  else if c = '\n' then ['\\', 'n']
  else if c = '\x0c' then ['\\', 'f']
  else if c = '\r' then ['\\', 'r']
  else if c.toNat < 0x20 then
    ['\\', 'u', '0', '0', hexDigit (c.toNat / 16), hexDigit (c.toNat % 16)]
  else [c]

def quoted (s : String) : List Char :=
  '"' :: (s.toList.flatMap escape ++ ['"'])

/-! ## Writers -/

def writeBoolean (value : Bool) : List Char :=
  if value then ['t', 'r', 'u', 'e'] else ['f', 'a', 'l', 's', 'e']

def writeNull : List Char := ['n', 'u', 'l', 'l']

mutual

/-- The text without any blank between tokens. -/
def write : Value → List Char
  | .null => writeNull
  | .boolean value => writeBoolean value
  | .integer value => (toString value).toList
  | .float value => Decimal.scientific value
  | .text value => quoted value
  | .list items => '[' :: writeItems items
  | .object members => '\x7b' :: writeMembers members

def writeItems : List Value → List Char
  | [] => [']']
  | [item] => write item ++ [']']
  | item :: items => write item ++ ',' :: writeItems items

def writeMembers : List (String × Value) → List Char
  | [] => ['\x7d']
  | [(name, value)] => quoted name ++ ':' :: write value ++ ['\x7d']
  | (name, value) :: members =>
    quoted name ++ ':' :: write value ++ ',' :: writeMembers members

end

/-- A line break and the blanks of the given depth. -/
def newLine (depth : Nat) : List Char :=
  '\n' :: List.replicate (2 * depth) ' '

mutual

/-- One item or member to a line, indented by two spaces a level; an empty list
or object stays on its line. -/
def writeIndented (depth : Nat) : Value → List Char
  | .list [] => ['[', ']']
  | .list (item :: items) => '[' :: indentedItems (depth + 1) (item :: items)
  | .object [] => ['\x7b', '\x7d']
  | .object (member :: members) =>
    '\x7b' :: indentedMembers (depth + 1) (member :: members)
  | .null => writeNull
  | .boolean value => writeBoolean value
  | .integer value => (toString value).toList
  | .float value => Decimal.scientific value
  | .text value => quoted value

def indentedItems (depth : Nat) : List Value → List Char
  | [] => newLine (depth - 1) ++ [']']
  | [item] => newLine depth ++ writeIndented depth item ++ newLine (depth - 1) ++ [']']
  | item :: items =>
    newLine depth ++ writeIndented depth item ++ ',' :: indentedItems depth items

def indentedMembers (depth : Nat) :
    List (String × Value) → List Char
  | [] => newLine (depth - 1) ++ ['\x7d']
  | [(name, value)] =>
    newLine depth ++ quoted name ++ ':' :: ' ' :: writeIndented depth value ++
      newLine (depth - 1) ++ ['\x7d']
  | (name, value) :: members =>
    newLine depth ++ quoted name ++ ':' :: ' ' :: writeIndented depth value ++
      ',' :: indentedMembers depth members

end

/-- The compact text of a value. -/
def compact (value : Value) : String :=
  String.ofList (write value)

/-- The indented text of a value. -/
def indented (value : Value) : String :=
  String.ofList (writeIndented 0 value)

end PromptRelay.Json
