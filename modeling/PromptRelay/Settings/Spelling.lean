import PromptRelay.Settings.Basic
import PromptRelay.Settings.Error
import PromptRelay.Text.Blank
import PromptRelay.Text.Letters
import PromptRelay.Text.Natural
import PromptRelay.Text.Pieces
import PromptRelay.Word

/-!
Contract: how the values of settings are spelled in text.

Owns:
- lists with commas between their items;
- counts, switches, messenger kinds and log formats.

Does not own: which variable or file a spelling comes from.
-/

namespace PromptRelay

open Text

/-- The items between commas, without surrounding blanks; blank items are
dropped. -/
def listItems (cs : List Char) : List (List Char) :=
  ((split ',' cs).map trim).filter (fun item => !item.isEmpty)

def readItems (text : String) : List String :=
  (listItems text.toList).map String.ofList

/-- A count of at most 64 bits, blanks around it aside. -/
def readCount? (text : String) : Option Nat :=
  readNatural? Word.maximum (trim text.toList)

def readSwitch? (text : String) : Option Bool :=
  let word := lowered (trimmed text)
  if ["1", "true", "yes", "on"].contains word then some true
  else if ["0", "false", "no", "off"].contains word then some false
  else none

/-- A messenger kind in letters of either case. -/
def readKind (text : String) : Except Violation MessengerKind :=
  let word := lowered (trimmed text)
  if word = "kafka" then .ok .kafka
  else if word = "nats" then .ok .nats
  else .error (.unsupportedKind word)

/-- A log format in letters of either case. -/
def readFormat (text : String) : Except Violation LogFormat :=
  let word := lowered (trimmed text)
  if word = "compact" then .ok .compact
  else if word = "pretty" then .ok .pretty
  else if word = "json" then .ok .json
  else .error (.unsupportedFormat word)

end PromptRelay
