/-!
Contract: what a message shows in place of an account of a fault.

The readers of documents and payloads say that a text is refused and by which
rule, not where. Messages that name such a fault end in this placeholder.
-/

namespace PromptRelay

/-- Stands for the account of a fault that its reader does not give. -/
def detail : String := "<detail>"

end PromptRelay
