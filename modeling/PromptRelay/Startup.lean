import PromptRelay.Agent
import PromptRelay.Completion.Answer
import PromptRelay.Messenger.Connection
import PromptRelay.Settings.Load

/-!
Contract: starting the agent from its settings.

Owns:
- the collaborators that settings ask for, put together in a fixed order;
- why the agent cannot be started, or ends;
- a whole run: loading settings, starting, and cycles.

Does not own: the network, brokers and files.
-/

namespace PromptRelay

/-- Why the agent cannot be put together. -/
inductive StartError where
  | settings (violation : Violation)
  | prompt (error : PromptError)
  | completion (error : CompletionError)
  | messenger (error : MessengerError)
deriving DecidableEq, Repr

def StartError.message : StartError → String
  | .settings violation => (SettingsError.invalid violation).message
  | .prompt error => error.message
  | .completion error => "completion backend setup failed: " ++ error.message
  | .messenger error => "messenger setup failed: " ++ error.message

/-- All that a run works with. -/
structure Application (σ : Type) where
  settings : Settings
  renderer : Renderer
  backend : Backend
  connection : Connection σ

/-- Puts the agent together: the template, the backend, then the messenger. -/
def start (world : World) (brokers : Brokers σ) (state : σ) (settings : Settings) :
    Outcome StartError (Application σ) :=
  let prepared : Except StartError (Renderer × Backend) := do
    let path ← settings.prompt.requirePath.mapError .settings
    let renderer ← (Renderer.ofFile world path).mapError .prompt
    let backend ← settings.completion.backend.mapError .settings
    .ok (renderer, backend)
  match prepared with
  | .error error => .failed error
  | .ok (renderer, backend) =>
    match connect brokers settings.messenger state with
    | .done connection => .done { settings, renderer, backend, connection }
    | .failed error => .failed (.messenger error)
    | .halted halt => .halted halt

/-- The agent of an application over one kind of messenger, which nothing
cancels. -/
def Application.agent (application : Application σ) (network : Completion.Network)
    (messenger : Messenger τ) : Agent τ where
  messenger
  complete inputs := .ofExcept (Completion.complete network application.backend inputs)
  backendName := application.backend.name
  renderer := application.renderer
  sinkMinimum := application.settings.messenger.sinkMinimum
  isVerbose := application.settings.prompt.isVerbose
  isCancelled _ := false
  report _ state := state
  isCancelled_report _ _ := rfl

/-- Runs the agent of an application for up to the given number of cycles. -/
def Application.run (application : Application σ) (network : Completion.Network)
    (brokers : Brokers σ) (cycles : Nat) : Outcome AgentError Unit :=
  let settings := application.settings.messenger
  match application.connection with
  | .kafka session =>
    ((application.agent network (Kafka.messenger brokers.kafka settings)).run cycles session).1
  | .nats session =>
    ((application.agent network (Nats.messenger brokers.nats settings)).run cycles session).1

/-! ## Runs -/

/-- Why a run ends. -/
inductive RunError where
  | loading (error : SettingsError)
  | starting (error : StartError)
  | running (error : AgentError)
deriving DecidableEq, Repr

def RunError.message : RunError → String
  | .loading error => error.message
  | .starting error => error.message
  | .running error => error.message

/-- Loads settings, starts the agent and runs it for up to the given number of
cycles. -/
def serve (world : World) (network : Completion.Network) (brokers : Brokers σ) (state : σ)
    (cycles : Nat) : Outcome RunError Unit :=
  match Settings.load world {} with
  | .error error => .failed (.loading error)
  | .ok settings =>
    match start world brokers state settings with
    | .failed error => .failed (.starting error)
    | .halted halt => .halted halt
    | .done application => (application.run network brokers cycles).mapError .running

/-- The first line of what a failed run tells. -/
def RunError.firstLine (error : RunError) : String :=
  String.ofList (("Error: " ++ error.message).toList.takeWhile (· ≠ '\n'))

end PromptRelay
