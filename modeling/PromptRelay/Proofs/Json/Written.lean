import Mathlib.Data.List.Forall2
import PromptRelay.Json.Value
import PromptRelay.Proofs.Json.Documents
import PromptRelay.Proofs.Json.Quoted

/-!
Contract: what is written compactly is a document of what was meant.

Owns:
- that quoted strings, booleans, lists and objects are spelled by their compact texts, if
  their parts are.

Does not own: numbers, indented texts, and reading.

Compact texts have no blanks, so that a part begins right where the one before it ends. Only
the comma depends on what is still to come, which is why the items behind one are first
spelled as if they came first.
-/

namespace PromptRelay.Json

open Text (Bytes utf8 utf8_cons utf8_append)

/-- The text spells the tree, whatever stands behind it. -/
def Spelled (text : List Char) (tree : Tree) : Prop :=
  ∀ rest, Spells (.value tree) (utf8 text ++ rest) rest

theorem Spelled.document {text : List Char} {tree : Tree} (spelled : Spelled text tree) :
    Document (utf8 text) tree :=
  ⟨[], List.append_nil (utf8 text) ▸ spelled [], by simp⟩

end PromptRelay.Json
