/-!
Contract: why a completion backend gives no answer.

Owns:
- the causes, and the texts that say so.

Does not own: what is asked and how the answer is read.
-/

namespace PromptRelay

/-- Why a completion backend of the given name gives no answer. -/
inductive CompletionError where
  | client (cause : String)
  | transport (backend cause : String)
  | authentication (backend : String) (status : Nat)
  | unsuccessful (backend : String) (status : Nat) (body : String)
  | malformedAnswer (backend cause : String)
deriving DecidableEq, Repr

def CompletionError.message : CompletionError → String
  | .client cause => "could not build http client: " ++ cause
  | .transport backend cause => backend ++ " request failed: " ++ cause
  | .authentication backend status =>
    backend ++ " rejected the credentials (HTTP " ++ toString status ++ ")"
  | .unsuccessful backend status body =>
    backend ++ " returned HTTP " ++ toString status ++ ": " ++ body
  | .malformedAnswer backend cause =>
    backend ++ " response could not be decoded: " ++ cause

end PromptRelay
