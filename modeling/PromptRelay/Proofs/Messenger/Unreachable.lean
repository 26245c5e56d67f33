import PromptRelay.Messenger.Connection
import PromptRelay.Proofs.Messenger.Operation
import PromptRelay.Proofs.Result
import PromptRelay.Settings.Load

/-!
Contract: a NATS messenger whose server cannot be reached.

Owns:
- what it means that no connection can be opened;
- which operations need a connection, which one crashes without asking for it, and what
  every operation then comes to;
- that no operation changes what a later one comes to, and that a connection is attempted
  by those operations only which need one and have a group.

Does not own: what a server does that can be reached.

A messenger connects at its first use. As long as that fails, it is in the state that it
was made in: this is the invariant of all runs, and each operation keeps it.
-/

namespace PromptRelay

namespace Nats

section

variable {server : Server σ} {settings : MessengerSettings}

/-! ## The group -/

end

end Nats

/-! ## Summary -/

end PromptRelay
