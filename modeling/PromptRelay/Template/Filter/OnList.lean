import PromptRelay.Template.Filter.Arguments
import PromptRelay.Text.Case

/-!
Contract: the filters on lists.

Owns:
- picking items, slices, and items with a given part;
- sorting, grouping and dropping repetitions;
- joining and extending.

Does not own: filters on text and numbers.
-/

namespace PromptRelay.Template

open Json Text

/-! ## Sorting -/

/-- What items are sorted by. -/
inductive SortKey where
  | switch (value : Bool)
  | number (value : Float)
  | text (value : String)
  | length (value : Nat)

/-- The key of a value; null and objects have none. -/
def sortKey? : Value → Option SortKey
  | .boolean value => some (.switch value)
  | .integer value => some (.number (Float.ofInt value))
  | .float value => some (.number value)
  | .text value => some (.text value)
  | .list items => some (.length items.length)
  | .null | .object _ => none

/-- Whether two keys are of one kind. -/
def SortKey.isLike : SortKey → SortKey → Bool
  | .switch _, .switch _ | .number _, .number _ => true
  | .text _, .text _ | .length _, .length _ => true
  | _, _ => false

def SortKey.isAtMost : SortKey → SortKey → Bool
  | .switch a, .switch b => !a || b
  | .number a, .number b => a ≤ b
  | .text a, .text b => !decide (b < a)
  | .length a, .length b => a ≤ b
  | _, _ => true

/-- Sorts items by a part that all of them have; equal ones keep their order. -/
def sortItems? (selector : String) (items : List Value) : Option (List Value) := do
  let keyed ← items.mapM fun item => do
    some (← (select? selector item).bind sortKey?, item)
  match keyed with
  | [] => some []
  | (first, _) :: _ =>
    if keyed.all fun pair => first.isLike pair.1 then
      some ((keyed.mergeSort fun a b => a.1.isAtMost b.1).map Prod.snd)
    else
      none

/-! ## Repetitions -/

/-- What two items have in common if one repeats the other. -/
inductive Mark where
  | switch (value : Bool)
  | number (value : Int)
  | text (value : String)
deriving DecidableEq

def mark? (isCaseSensitive : Bool) : Value → Option Mark
  | .boolean value => some (.switch value)
  | .integer value => if Word.isSigned value then some (.number value) else none
  | .text value => some (.text (if isCaseSensitive then value else inLowerCase value))
  | _ => none

/-- Whether two values are of one kind. -/
def isLike : Value → Value → Bool
  | .null, .null | .boolean _, .boolean _ | .text _, .text _ => true
  | .integer _, .integer _ | .integer _, .float _ => true
  | .float _, .integer _ | .float _, .float _ => true
  | .list _, .list _ | .object _, .object _ => true
  | _, _ => false

/-- Keeps the first item of each mark. Items without the part are dropped. -/
def keepFirst? (isCaseSensitive : Bool) (selector : String) (model : Value) :
    (seen : List Mark) → List Value → Option (List Value)
  | _, [] => some []
  | seen, item :: items =>
    match select? selector item with
    | none => keepFirst? isCaseSensitive selector model seen items
    | some part =>
      if isLike model part then do
        let mark ← mark? isCaseSensitive part
        if seen.contains mark then
          keepFirst? isCaseSensitive selector model seen items
        else
          some (item :: (← keepFirst? isCaseSensitive selector model (mark :: seen) items))
      else
        none

def uniqueItems? (isCaseSensitive : Bool) (selector : String) (items : List Value) :
    Option (List Value) :=
  match items with
  | [] => some []
  | first :: _ => do
    let model ← select? selector first
    if (mark? isCaseSensitive model).isNone then none
    else keepFirst? isCaseSensitive selector model [] items

/-! ## Groups -/

/-- The name of the group that a part leads to. -/
def groupName (part : Value) : String :=
  match part with
  | .text name => name
  | part => compact part

def addToGroup (name : String) (item : Value) (groups : Members) : Members :=
  let held := ((groups.lookup name).bind items?).getD []
  insertMember name (.list (held ++ [item])) groups

/-- Items by the part that they have; those without one are dropped. -/
def groupItems (selector : String) (items : List Value) : Members :=
  items.foldl (fun groups item =>
    match select? selector item with
    | none | some .null => groups
    | some part => addToGroup (groupName part) item groups) []

/-! ## Positions -/

/-- The position that a number means; negative ones count from the end. -/
def positionOf (length : Nat) (index : Float) : Nat :=
  if index >= 0.0 then index.toUInt64.toNat
  else (Float.ofNat length + index).toUInt64.toNat

def sliceItems? (arguments : Members) (items : List Value) : Option (List Value) := do
  let position (name : String) (default : Nat) :=
    match arguments.lookup name with
    | some value => (float? value).map (positionOf items.length)
    | none => some default
  let start ← position "start" 0
  let stop ← position "end" items.length
  some ((items.take stop).drop start)

/-! ## The filters -/

def nothing : Value := .text ""

/-- Line feeds and tabs in place of their two-character spellings. -/
def plainBreaks : List Char → List Char
  | '\\' :: 'n' :: rest => '\n' :: plainBreaks rest
  | '\\' :: 't' :: rest => '\t' :: plainBreaks rest
  | c :: rest => c :: plainBreaks rest
  | [] => []

def spellOut (separator : String) : String :=
  String.ofList (plainBreaks separator.toList)

/-- A filter by which an empty list passes whatever the arguments are. -/
def unlessEmpty (empty : Value) (apply : Members → List Value → Option Value) :
    Members → List Value → Option Value :=
  fun arguments items => if items.isEmpty then some empty else apply arguments items

def nth? (arguments : Members) (items : List Value) : Option Value := do
  let position ← required count? "n" arguments
  some (items[position]?.getD nothing)

def join? (arguments : Members) (items : List Value) : Option Value := do
  let separator ← optional text? "sep" "" arguments
  some (.text (joined (spellOut separator) (items.map writtenText)))

def sort? (arguments : Members) (items : List Value) : Option Value := do
  let selector ← optional text? "attribute" "" arguments
  some (.list (← sortItems? selector items))

def unique? (arguments : Members) (items : List Value) : Option Value := do
  let isCaseSensitive ← optional switch? "case_sensitive" false arguments
  let selector ← optional text? "attribute" "" arguments
  some (.list (← uniqueItems? isCaseSensitive selector items))

def groupBy? (arguments : Members) (items : List Value) : Option Value := do
  some (.object (groupItems (← required text? "attribute" arguments) items))

/-- The items whose part is the wanted one, or not null if null is wanted. -/
def withPart? (arguments : Members) (items : List Value) : Option Value := do
  let selector ← required text? "attribute" arguments
  let wanted := (arguments.lookup "value").getD .null
  some (.list (items.filter fun item =>
    let part := (select? selector item).getD .null
    if isNull wanted then !isNull part else same part wanted))

def parts? (arguments : Members) (items : List Value) : Option Value := do
  let selector ← required text? "attribute" arguments
  some (.list (items.filterMap fun item =>
    (select? selector item).filter fun part => !isNull part))

def concat? (arguments : Members) (items : List Value) : Option Value := do
  match ← arguments.lookup "with" with
  | .list more => some (.list (items ++ more))
  | item => some (.list (items ++ [item]))

/-- The filter of this name that takes a list. -/
def listFilter? (name : String) : Option (Members → List Value → Option Value) :=
  match name with
  | "first" => some fun _ items => some (items.head?.getD nothing)
  | "last" => some fun _ items => some (items.getLast?.getD nothing)
  | "nth" => some (unlessEmpty nothing nth?)
  | "join" => some join?
  | "sort" => some (unlessEmpty (.list []) sort?)
  | "unique" => some (unlessEmpty (.list []) unique?)
  | "slice" =>
    some (unlessEmpty (.list []) fun arguments items => (sliceItems? arguments items).map .list)
  | "group_by" => some (unlessEmpty (.object []) groupBy?)
  | "filter" => some (unlessEmpty (.list []) withPart?)
  | "map" => some (unlessEmpty (.list []) parts?)
  | "concat" => some concat?
  | _ => none

end PromptRelay.Template
