import PromptRelay.Main
import PromptRelay.Proofs.Agent.Cancellation
import PromptRelay.Proofs.Agent.Delivery
import PromptRelay.Proofs.Command.Attribution
import PromptRelay.Proofs.Command.Secrecy
import PromptRelay.Proofs.Prompt.Faithfulness
import PromptRelay.Proofs.Readiness
import PromptRelay.Proofs.Settings.Loading
import PromptRelay.Proofs.Sufficiency
import PromptRelay.Proofs.Wire.RoundTrip
import PromptRelay.Rehearsal
import PromptRelay.Startup
import PromptRelay.Proofs.Interpretation
import PromptRelay.Proofs.Messenger.Unreachable
import PromptRelay.Proofs.Messenger.Kafka.Delivery
import PromptRelay.Proofs.Command.Preview
import PromptRelay.Proofs.Thought
import PromptRelay.Proofs.Messenger.Batches
import PromptRelay.Proofs.Wire.Damage
import PromptRelay.Proofs.Wire.Layout
import PromptRelay.Proofs.Command.Batches
import PromptRelay.Proofs.Settings.Substitution
import PromptRelay.Proofs.Messenger.Calls
import PromptRelay.Proofs.Messenger.Kafka.Coverage
import PromptRelay.Proofs.Completion.Address
import PromptRelay.Proofs.Completion.Answers
import PromptRelay.Proofs.Completion.Requests
import PromptRelay.Proofs.Messenger.Kafka.Rotation
import PromptRelay.Proofs.Messenger.Kafka.Disconnection
import PromptRelay.Proofs.Agent.Verbosity
import PromptRelay.Proofs.Settings.Lists
import PromptRelay.Proofs.Settings.Counts
