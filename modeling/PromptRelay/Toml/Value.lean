/-!
Contract: the values of a TOML document.

Owns:
- the value type, with the members of a table in the order they were defined;
- following a path of keys through nested tables.

Does not own: the text of a document.
-/

namespace PromptRelay.Toml

/-- Floats and points in time keep their text: no setting holds one. -/
inductive Value where
  | text (value : String)
  | integer (value : Int)
  | boolean (value : Bool)
  | float (source : String)
  | moment (source : String)
  | array (items : List Value)
  | table (members : List (String × Value))
deriving Inhabited, Repr

/-- The member of a table with the given key. -/
def Value.member? (key : String) : Value → Option Value
  | .table members => members.lookup key
  | _ => none

/-- The value at the end of a path of keys. -/
def Value.at? (path : List String) (root : Value) : Option Value :=
  path.foldlM (fun value key => value.member? key) root

end PromptRelay.Toml
