import PromptRelay.Json.Value

/-!
Contract: what a command comes to.

Owns:
- the exit code and the output of a command;
- the output of a failed command, which is a JSON object.

Does not own: the commands.
-/

namespace PromptRelay.Command

open Json

structure Result where
  exitCode : Nat
  output : String
deriving DecidableEq, Repr

/-- A failed command tells its name, the class of the fault and the fault itself. -/
def failure (command faultClass message : String) (exitCode : Nat) : Result :=
  { exitCode
    output := compact (.object [
      ("command", .text command),
      ("status", .text "error"),
      ("error_class", .text faultClass),
      ("message", .text message)]) }

end PromptRelay.Command
