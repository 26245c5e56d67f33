import PromptRelay.Detail
import PromptRelay.Messenger.Bytes
import PromptRelay.Messenger.Nats.Server
import PromptRelay.Settings.Validation

/-!
Contract: the transport of messages over NATS streams.

Owns:
- connecting at the first use, with a stream for the sinks that is named after
  the group;
- subscribing to the first source by a durable consumer of the same name;
- consuming with acknowledgement, and publishing to every sink.

Does not own: the server.
-/

namespace PromptRelay.Nats

open Text (Bytes)

/-- A client and the server it works with. -/
structure Session (σ : Type) where
  isConnected : Bool := false
  isSubscribed : Bool := false
  server : σ

def onServer (action : Action ε σ α) : Action ε (Session σ) α :=
  action.onPart Session.server fun server session => { session with server }

/-- The name of the stream and of the consumer. -/
def requireGroup (settings : MessengerSettings) : Except MessengerError String :=
  match settings.groupId.filter fun group => !Text.isBlankText group with
  | some group => .ok group
  | none => .error (.connect "nats requires messenger.group_id")

/-- The account of a failed connection. -/
def atStream (name : String) : MessengerError := .connect ("stream `" ++ name ++ "`: " ++ detail)

def atSubject (subject : String) : MessengerError :=
  .connect ("subject `" ++ subject ++ "`: " ++ detail)

def atConsumer (name : String) : MessengerError :=
  .connect ("consumer `" ++ name ++ "`: " ++ detail)

variable {σ : Type} (server : Server σ) (settings : MessengerSettings)

/-- Looks for a thing and makes it if it is missing. -/
def ensure (look : σ → Finding × σ) (create : Action Unit σ Unit) (error : MessengerError) :
    Transport σ Unit := fun state =>
  match look state with
  | (.found, state) => (.done (), state)
  | (.missing, state) => create.mapError (fun _ => error) state
  | (.failed, state) => (.failed error, state)

/-- Opens a connection, with a stream over the sinks if one is named. -/
def openConnection (stream : Option String) : Transport σ Unit := do
  (server.openConnection (",".intercalate settings.servers) settings.clientId).mapError
    fun _ => .connect detail
  match stream with
  | none => pure ()
  | some name =>
    if isName name then
      ensure (server.stream name) (server.createStream name settings.sinks) (atStream name)
    else
      .fail (atStream name)

/-- Connects, unless there is a connection. -/
def connect : Transport (Session σ) Unit := do
  if (← .read).isConnected then pure ()
  else
    let stream ← if settings.topics.hasSink then do
        let group ← .ofExcept (requireGroup settings)
        pure (some group)
      else pure none
    onServer (openConnection server settings stream)
    .change fun session => { session with isConnected := true }

/-- Begins to consume a subject by a durable consumer of the given name. -/
def bindConsumer (subject name : String) : Transport σ Unit := do
  if !isSubject subject then .fail (atSubject subject)
  else
    let stream ← (server.streamOf subject).mapError fun _ => atSubject subject
    (fun state =>
      match server.stream stream state with
      | (.found, state) => (.done (), state)
      | (_, state) => (.failed (atStream stream), state) : Transport σ Unit)
    ensure (server.consumer stream name) (server.createConsumer stream name subject)
      (atConsumer name)
    (server.subscribe stream name).mapError fun _ => atConsumer name

/-- Subscribes to the first source, unless that has been done. -/
def subscribe : Transport (Session σ) Unit := do
  if (← .read).isSubscribed then pure ()
  else
    match settings.sources.head? with
    | none => .fail (.connect "nats has no source subject")
    | some subject => do
      let group ← .ofExcept (requireGroup settings)
      connect server settings
      onServer (bindConsumer server subject group)
      .change fun session => { session with isSubscribed := true }

/-- The next delivery. A payload is acknowledged before it is read. -/
def takeDelivery : Transport σ (Option Bytes) := fun state =>
  match server.deliver state with
  | (.payload payload, state) =>
    match server.acknowledge state with
    | (.done (), state) => (.done (some payload), state)
    | (.failed (), state) => (.failed (.receive detail), state)
    | (.halted halt, state) => (.halted halt, state)
  | (.fault, state) => (.failed (.receive detail), state)
  | (.ended, state) => (.done none, state)

def consume : Transport (Session σ) (Option Message) := do
  if !settings.topics.hasSource then pure none
  else
    subscribe server settings
    match ← onServer (takeDelivery server) with
    | none => pure none
    | some payload => do
      let message ← ByteMessenger.readPayload payload
      pure (some message)

/-- Publishes a payload to subjects until one fails. -/
def publishAll (payload : Bytes) : List String → Transport σ Unit
  | [] => pure ()
  | subject :: subjects => do
    (server.publish subject payload).mapError fun _ =>
      .send ("subject `" ++ subject ++ "`: " ++ detail)
    publishAll payload subjects

def produce (message : Message) : Transport (Session σ) Unit := do
  if !settings.topics.hasSink then pure ()
  else
    connect server settings
    onServer (publishAll server (ByteMessenger.payloadOf message) settings.sinks)

/-- Waits until the server has what was sent to it. Without a connection nothing was
sent. -/
def flush : Transport (Session σ) Unit := do
  if (← .read).isConnected then
    (onServer server.flush).mapError fun _ => .flush detail
  else pure ()

/-- Gives up the subscription and the connection. -/
def terminate : Transport (Session σ) Unit :=
  .change fun session => { session with isConnected := false, isSubscribed := false }

/-- The messenger over a server. -/
def messenger : Messenger (Session σ) where
  sourceMinimum := settings.sourceMinimum
  consume := consume server settings
  produce := produce server settings
  flush := flush server
  terminate

end PromptRelay.Nats
