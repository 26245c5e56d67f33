import PromptRelay.Message
import PromptRelay.Text.Blank
import PromptRelay.Text.Natural
import PromptRelay.Text.Pieces
import PromptRelay.Word

/-!
Contract: what a completion means for the batch it answers.

Owns:
- dropping the thought that a completion may open with;
- the written form of an index and its value;
- selecting a message of the batch, or making a new one.

Does not own: where completions come from and where the result goes.
-/

namespace PromptRelay

open Text

inductive InterpretError where
  /-- The answer was to be an index and is this text. -/
  | notAnIndex (content : String)
deriving DecidableEq, Repr

def InterpretError.message : InterpretError → String
  | .notAnIndex content => "Index operator expected an integer, got `" ++ content ++ "`"

def thoughtOpen : List Char := "<thought>".toList

def thoughtClose : List Char := "</thought>".toList

/-- The trimmed text; where that opens with a thought, what follows the last
closing tag, trimmed. -/
def answerChars (cs : List Char) : List Char :=
  let kept := trim cs
  if thoughtOpen.isPrefixOf kept then
    match afterLast? thoughtClose kept with
    | some answer => trim answer
    | none => kept
  else
    kept

def stripThought (content : String) : String :=
  String.ofList (answerChars content.toList)

/-- Whether an index is below zero, and its text without the sign. -/
def splitSign : List Char → Bool × List Char
  | '-' :: rest => (true, rest)
  | '+' :: rest => (false, rest)
  | rest => (false, rest)

/-- A number with one more digit, as long as a word with a sign holds it. -/
def appendDigit? (isNegative : Bool) (value : Int) (digit : Char) : Option Int :=
  let added : Int := digitValue digit
  let longer := 10 * value + (if isNegative then -added else added)
  if Word.isSigned longer then some longer else none

/-- The value of digits behind a sign, if a word with a sign holds it. -/
def readSigned? (isNegative : Bool) (digits : List Char) : Option Int :=
  digits.foldlM (appendDigit? isNegative) 0

/-- The value of an index: an optional sign and groups of digits with a single
underscore between neighbours. A text of that form may still be too large for a
word with a sign, in which case it has no value. -/
def readIndex? (cs : List Char) : Option (Option Int) :=
  let (isNegative, body) := splitSign cs
  let groups := split '_' body
  if groups.all isNumeral then some (readSigned? isNegative groups.flatten) else none

/-- The message at a position that is counted from one. The last message of the
batch is never selected. -/
def select? (index : Int) (batch : List Message) : Option Message :=
  if 1 ≤ index ∧ index < batch.length then batch[(index - 1).toNat]? else none

/-- The message that a completion stands for: none if there is no completion or
its index is out of range, be it that of the batch or that of a word. -/
def interpret (operator : Operator) (completion : Option Message) (batch : List Message) :
    Except InterpretError (Option Message) :=
  match completion with
  | none => .ok none
  | some completion =>
    let content := stripThought completion.content
    match operator with
    | .message => .ok (some (.assistant content))
    | .index =>
      match readIndex? content.toList with
      | none => .error (.notAnIndex content)
      | some none => .ok none
      | some (some index) => .ok (select? index batch)

end PromptRelay
