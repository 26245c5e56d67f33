import PromptRelay.Json.Value
import PromptRelay.Text.Natural
import PromptRelay.Text.Pieces
import PromptRelay.Word

/-!
Contract: the values that templates compute with.

Owns:
- the written form, truth and equality of values;
- the number that a value is, and the parts that paths lead to.

Does not own: filters and operators. The members of an object are kept in the
order of their names.
-/

namespace PromptRelay.Template

open Json Text

abbrev Members := List (String × Value)

/-! ## Objects -/

/-- Puts a member at its place among members in the order of their names. -/
def insertMember (name : String) (value : Value) : Members → Members
  | [] => [(name, value)]
  | (other, held) :: rest =>
    if name < other then (name, value) :: (other, held) :: rest
    else if name = other then (name, value) :: rest
    else (other, held) :: insertMember name value rest

/-! ## Written form -/

mutual

/-- What a value writes: texts as they are, nothing for null. -/
def written : Value → List Char
  | .null => []
  | .boolean value => writeBoolean value
  | .integer value => (toString value).toList
  | .float value => Decimal.plain value
  | .text value => value.toList
  | .list items => '[' :: writtenItems items
  | .object _ => "[object]".toList

def writtenItems : List Value → List Char
  | [] => [']']
  | [item] => written item ++ [']']
  | item :: items => written item ++ ',' :: ' ' :: writtenItems items

end

def writtenText (value : Value) : String :=
  String.ofList (written value)

/-! ## Truth and equality -/

/-- Zero, empty and null values are false. -/
def isTruthy : Value → Bool
  | .null => false
  | .boolean value => value
  | .integer value => value ≠ 0
  | .float value => value != 0.0 && !value.isNaN
  | .text value => !value.isEmpty
  | .list items => !items.isEmpty
  | .object members => !members.isEmpty

def isNull : Value → Bool
  | .null => true
  | _ => false

mutual

/-- Equality that tells integers and floats apart. -/
def same : Value → Value → Bool
  | .null, .null => true
  | .boolean a, .boolean b => a == b
  | .integer a, .integer b => a == b
  | .float a, .float b => a == b
  | .text a, .text b => a == b
  | .list a, .list b => sameItems a b
  | .object a, .object b => sameMembers a b
  | _, _ => false

def sameItems : List Value → List Value → Bool
  | [], [] => true
  | a :: as, b :: bs => same a b && sameItems as bs
  | _, _ => false

def sameMembers : Members → Members → Bool
  | [], [] => true
  | (name, a) :: as, (other, b) :: bs => name == other && same a b && sameMembers as bs
  | _, _ => false

end

/-! ## Numbers -/

/-- The double that a number is nearest to. -/
def float? : Value → Option Float
  | .integer value => some (Float.ofInt value)
  | .float value => some value
  | _ => none

def isNumber : Value → Bool
  | .integer _ | .float _ => true
  | _ => false

/-- A float as a value; what is not finite has none. -/
def finite? (value : Float) : Option Value :=
  if value.isFinite then some (.float value) else none

/-- The integer part of a float, kept within 64 bits. -/
def truncated (value : Float) : Int :=
  value.toInt64.toInt

/-! ## Parts -/

/-- The position that a token names: digits without a leading zero. -/
def position? (token : String) : Option Nat :=
  match token.toList with
  | '+' :: _ => none
  | '0' :: _ :: _ => none
  | cs => readNatural? Word.maximum cs

/-- The member or item that a token names. -/
def part? (token : String) : Value → Option Value
  | .object members => members.lookup token
  | .list items => (position? token).bind fun position => items[position]?
  | _ => none

def follow? (tokens : List String) (value : Value) : Option Value :=
  tokens.foldlM (fun value token => part? token value) value

/-- The tokens of a selector: what stands between its points. -/
def selectorTokens (selector : String) : List String :=
  ((split '.' selector.toList).map String.ofList).filter fun token => !token.isEmpty

/-- The part of a value that a selector such as `author.name` names. -/
def select? (selector : String) (value : Value) : Option Value :=
  follow? (selectorTokens selector) value

end PromptRelay.Template
