import PromptRelay.Template.Evaluation
import PromptRelay.Template.Filter.OnList
import PromptRelay.Template.Filter.OnText

/-!
Contract: all filters by name.

Owns:
- the filters on numbers, and those on values of several kinds;
- which filters there are, and which kind of value each of them takes.

Does not own: the filters on text and on lists. A filter that is given a value of
the wrong kind fails.
-/

namespace PromptRelay.Template

open Json Text

/-! ## Numbers -/

/-- The least integer has no counterpart within 64 bits, and is left as it is. -/
def absolute? : Value → Option Value
  | .integer value =>
    some (.integer (if value = -Word.signedLimit then value else value.natAbs))
  | .float value => some (.float value.abs)
  | _ => none

def powerOfTen : Nat → Float
  | 0 => 1.0
  | exponent + 1 => 10.0 * powerOfTen exponent

/-- A float as a value; what is not finite is null. -/
def ofFloat (value : Float) : Value :=
  (finite? value).getD .null

def rounded? (arguments : Members) (value : Float) : Option Value := do
  let method ← optional text? "method" "common" arguments
  let places ← optional (integerWithin? (-0x80000000) 0x7FFFFFFF) "precision" 0 arguments
  let factor := if 0 ≤ places then powerOfTen (min places.toNat 400)
    else 1.0 / powerOfTen (min (-places).toNat 400)
  let scaled := factor * value
  match method with
  | "common" => some (ofFloat (scaled.round / factor))
  | "ceil" => some (ofFloat (scaled.ceil / factor))
  | "floor" => some (ofFloat (scaled.floor / factor))
  | _ => none

/-- An ending that depends on whether a number is one. -/
def pluralize? (arguments : Members) (value : Float) : Option Value := do
  let plural ← optional text? "plural" "s" arguments
  let singular ← optional text? "singular" "" arguments
  let epsilon := Float.ofScientific 2220446049250313 true 31
  some (.text (if (value.abs - 1.0).abs > epsilon then plural else singular))

/-! ## Several kinds -/

def length? : Value → Option Value
  | .list items => some (.integer items.length)
  | .object members => some (.integer members.length)
  | .text value => some (.integer value.length)
  | _ => none

def reversed? : Value → Option Value
  | .list items => some (.list items.reverse)
  | .text value => some (.text (String.ofList value.toList.reverse))
  | _ => none

/-- JSON text, indented if that is asked for. -/
def jsonText (arguments : Members) (value : Value) : Value :=
  let isPretty := ((arguments.lookup "pretty").bind switch?).getD false
  .text (if isPretty then indented value else compact value)

def member? (arguments : Members) (value : Value) : Option Value := do
  let key ← required text? "key" arguments
  let members ← members? value
  members.lookup key <|> arguments.lookup "default"

/-- A text is read in a base, of which there are those from 2 to 36. -/
def integerFilter (arguments : Members) (value : Value) : Evaluation Value := do
  let bounds := integerWithin? (-Word.signedLimit) (Word.signedLimit - 1)
  let default ← .ofOption (optional bounds "default" 0 arguments)
  let base ← .ofOption (optional (integerWithin? 0 0xFFFFFFFF) "base" 10 arguments)
  match value with
  | .text text =>
    if 2 ≤ base && base ≤ 36 then .ok (.integer (integerOf base.toNat default text))
    else .crash .base
  | .integer value => .ok (.integer (truncated (Float.ofInt value)))
  | .float value => .ok (.integer (truncated value))
  | _ => .fail

def floatFilter? (arguments : Members) (value : Value) : Option Value := do
  let default ← optional float? "default" 0.0 arguments
  match value with
  | .text text => some (ofFloat ((readFloat? (trim text.toList)).getD default))
  | .integer value => some (ofFloat (Float.ofInt value))
  | .float value => some (ofFloat value)
  | _ => none

/-! ## By name -/

/-- What a value becomes when it passes through a filter with arguments. -/
abbrev Filter := Members → Value → Evaluation Value

/-- A filter on the values that can be read as something. -/
def Filter.on (read : Value → Option α) (apply : Members → α → Option Value) : Filter :=
  fun arguments value => .ofOption ((read value).bind (apply arguments))

/-- The filter of this name, if there is one. -/
def filter? (name : String) : Option Filter :=
  match name with
  | "length" => some (.on some fun _ => length?)
  | "reverse" => some (.on some fun _ => reversed?)
  | "json_encode" => some fun arguments value => .ok (jsonText arguments value)
  | "as_str" => some fun _ value => .ok (.text (writtenText value))
  | "get" => some (.on some member?)
  | "int" => some integerFilter
  | "float" => some (.on some floatFilter?)
  | "abs" => some (.on some fun _ => absolute?)
  | "round" => some (.on float? rounded?)
  | "pluralize" => some (.on float? pluralize?)
  | name => (textFilter? name).map (.on text?) <|> (listFilter? name).map (.on items?)

end PromptRelay.Template
