import PromptRelay.Messenger.Kafka.Backend
import PromptRelay.Messenger.Nats.Client

/-!
Contract: the messenger that settings select.

Owns:
- connecting as the kind of messenger asks for;
- the reports of that.

Does not own: the messengers of either kind.
-/

namespace PromptRelay

/-- The brokers of either kind, as steps on a state. -/
structure Brokers (σ : Type) where
  kafka : Kafka.Broker σ
  nats : Nats.Server σ

/-- Brokers that cannot be reached. -/
def Brokers.unreachable : Brokers σ where
  kafka := {
    listPartitions := .fail ()
    openPlace _ := .fail ()
    latestOffset _ := .fail ()
    fetch _ _ := .fail ()
    append _ _ := .fail ()
    mostFetches _ := 0 }
  nats := {
    openConnection _ _ := .fail ()
    stream _ state := (.failed, state)
    createStream _ _ := .fail ()
    streamOf _ := .fail ()
    consumer _ _ state := (.failed, state)
    createConsumer _ _ _ := .fail ()
    subscribe _ _ := .fail ()
    deliver state := (.fault, state)
    acknowledge := .fail ()
    publish _ _ := .fail ()
    flush := .fail () }

/-- What is kept of a messenger of either kind. -/
inductive Connection (σ : Type) where
  | kafka (session : Kafka.Session σ)
  | nats (session : Nats.Session σ)

namespace Kafka

/-- The messenger over a Kafka broker. -/
def messenger (broker : Broker σ) (settings : MessengerSettings) : Messenger (Session σ) :=
  (byteMessenger broker).toMessenger settings.topics settings.sourceMinimum

end Kafka

/-- Connects as settings say. Only Kafka is connected to at once, and only if there
are topics. -/
def connect (brokers : Brokers σ) (settings : MessengerSettings) (state : σ) :
    Outcome MessengerError (Connection σ) :=
  match settings.requireKind with
  | .error violation => .failed (.settings violation)
  | .ok .nats => .done (.nats { server := state })
  | .ok .kafka =>
    match Kafka.connect brokers.kafka settings.topics state with
    | (.done backend, broker) => .done (.kafka { backend, broker })
    | (.failed error, _) => .failed error
    | (.halted halt, _) => .halted halt

/-- The reports that a successful connection has made. -/
def Connection.reports (settings : MessengerSettings) : Connection σ → List String
  | .nats _ => ["system.messenger.connect"]
  | .kafka session =>
    if session.backend.isConnected then
      ["system.messenger.connect"] ++
        session.backend.readers.map (fun _ => "system.messenger.kafka.reader_ready") ++
        (if settings.groupId.isSome then ["system.messenger.kafka.group_ignored"] else []) ++
        ["system.messenger.kafka.connected"]
    else
      ["system.messenger.connect", "system.messenger.kafka.idle"]

end PromptRelay
