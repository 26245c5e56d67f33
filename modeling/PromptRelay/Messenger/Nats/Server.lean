import PromptRelay.Messenger.Basic

/-!
Contract: what a NATS server with streams can be asked, and a server that follows
a script.

Owns:
- the requests to a server, as steps on a state;
- streams, their subjects and their durable consumers;
- what a consumer delivers, which delivery is acknowledged, and how publishing
  ends;
- the texts that may name streams and subjects.

Does not own: who asks.
-/

namespace PromptRelay.Nats

open Text (Bytes)

/-- What a request for a thing of a given name finds. -/
inductive Finding where
  | found
  | missing
  | failed
deriving DecidableEq, Repr

/-- The next thing that a consumer delivers. -/
inductive Delivery where
  | payload (payload : Bytes)
  /-- The delivery fails. Others may follow. -/
  | fault
  /-- There is no further delivery. -/
  | ended
deriving DecidableEq, Repr

/-- The requests to a server. Their errors give no account of themselves. -/
structure Server (σ : Type) where
  openConnection : (address : String) → (clientName : Option String) → Action Unit σ Unit
  stream : (name : String) → σ → Finding × σ
  createStream : (name : String) → (subjects : List String) → Action Unit σ Unit
  streamOf : (subject : String) → Action Unit σ String
  consumer : (stream name : String) → σ → Finding × σ
  createConsumer : (stream name subject : String) → Action Unit σ Unit
  /-- Begins to deliver to a consumer. -/
  subscribe : (stream consumer : String) → Action Unit σ Unit
  deliver : σ → Delivery × σ
  acknowledge : Action Unit σ Unit
  publish : (subject : String) → Bytes → Action Unit σ Unit
  /-- Waits until all that was sent has arrived. -/
  flush : Action Unit σ Unit

/-! ## Names -/

def isBlankOctet (c : Char) : Bool :=
  c == ' ' || c == '\t' || c == '\n' || c == '\x0c' || c == '\r'

/-- Whether a stream may have the name. -/
def isName (name : String) : Bool :=
  !name.isEmpty &&
    name.toList.all fun c => !isBlankOctet c && c ≠ '.' && c ≠ '*' && c ≠ '>'

/-- Whether a text may be a subject. -/
def isSubject (subject : String) : Bool :=
  subject.toList.head? ≠ some '.' && subject.toList.getLast? ≠ some '.' &&
    subject.toList.all fun c => !isBlankOctet c

/-! ## Scripted servers -/

structure Stream where
  name : String
  subjects : List String
  consumers : List String := []
deriving DecidableEq, Repr

/-- What a consumer is sent. -/
inductive Frame where
  | payload (payload : Bytes)
  /-- A sign that the server is alive. -/
  | heartbeat
  /-- The consumer has been deleted. -/
  | deleted
  | otherStatus
deriving DecidableEq, Repr

/-- The kinds of request that can be made to fail. -/
inductive RequestKind where
  | streamInfo
  | streamCreate
  | streamNames
  | consumerInfo
  | consumerCreate
deriving DecidableEq, Repr

/-- What has been asked of a server. -/
inductive Request where
  | connect (clientName : Option String)
  | streamInfo (stream : String)
  | streamCreate (stream : String) (subjects : List String)
  | streamNames (subject : String)
  | consumerInfo (stream consumer : String)
  | consumerCreate (stream consumer subject : String)
  | publish (subject : String) (payload : Bytes)
deriving DecidableEq, Repr

structure Script where
  address : String
  /-- The streams, in the order of their names. -/
  streams : List Stream := []
  frames : List Frame := []
  /-- Whether publications succeed, in order. Later ones do. -/
  publications : List Bool := []
  failing : List RequestKind := []
  /-- The frame that is sent next. -/
  position : Nat := 0
  /-- The frame after the last one that was acknowledged. -/
  acknowledged : Nat := 0
  /-- Whether the subscription has been ended. -/
  hasEnded : Bool := false
  acknowledgements : Nat := 0
  requests : List Request := []
deriving Repr

namespace Script

def note (request : Request) (script : Script) : Script :=
  { script with requests := script.requests ++ [request] }

def stream? (script : Script) (name : String) : Option Stream :=
  script.streams.find? fun stream => stream.name = name

/-- Puts a stream at its place in the order of names. -/
def insertStream (stream : Stream) : List Stream → List Stream
  | [] => [stream]
  | other :: rest =>
    if stream.name < other.name then stream :: other :: rest
    else other :: insertStream stream rest

/-- Answers a request of a kind that may be failing. -/
def request (kind : RequestKind) (request : Request) (answer : Script → Outcome Unit α)
    (change : Script → Script) : Action Unit Script α := fun script =>
  let script := script.note request
  if script.failing.contains kind then (.failed (), script)
  else
    match answer script with
    | .done value => (.done value, change script)
    | outcome => (outcome, script)

def openConnection (address : String) (clientName : Option String) :
    Action Unit Script Unit := fun script =>
  if address = script.address then (.done (), script.note (.connect clientName))
  else (.failed (), script)

/-- Looks for a thing. -/
def look (kind : RequestKind) (request : Request) (exists? : Script → Bool) (script : Script) :
    Finding × Script :=
  let script := script.note request
  if script.failing.contains kind then (.failed, script)
  else (if exists? script then .found else .missing, script)

def stream (name : String) : Script → Finding × Script :=
  look .streamInfo (.streamInfo name) fun script => (script.stream? name).isSome

def createStream (name : String) (subjects : List String) : Action Unit Script Unit :=
  request .streamCreate (.streamCreate name subjects) (fun _ => .done ()) fun script =>
    { script with streams := insertStream { name, subjects } script.streams }

/-- Of the streams with a subject the last one is found. -/
def streamOf (subject : String) : Action Unit Script String :=
  let answer (script : Script) : Outcome Unit String :=
    match (script.streams.filter fun stream => stream.subjects.contains subject).getLast? with
    | some stream => .done stream.name
    | none => .failed ()
  request .streamNames (.streamNames subject) answer id

def consumer (stream name : String) : Script → Finding × Script :=
  look .consumerInfo (.consumerInfo stream name) fun script =>
    (script.stream? stream).any fun stream => stream.consumers.contains name

def createConsumer (stream name subject : String) : Action Unit Script Unit :=
  request .consumerCreate (.consumerCreate stream name subject) (fun _ => .done ())
    fun script =>
      { script with streams := script.streams.map fun other =>
          if other.name = stream then { other with consumers := other.consumers ++ [name] }
          else other }

/-- Deliveries begin after the last acknowledged one. -/
def subscribe (_stream _consumer : String) : Action Unit Script Unit := fun script =>
  (.done (), { script with position := script.acknowledged, hasEnded := false })

/-- The next of the given frames that is to be seen, and how many were passed. -/
def nextFrame : List Frame → Nat × Frame
  | [] => (0, .deleted)
  | .heartbeat :: frames =>
    let (count, frame) := nextFrame frames
    (count + 1, frame)
  | frame :: _ => (1, frame)

def deliver (script : Script) : Delivery × Script :=
  if script.hasEnded then (.ended, script)
  else
    let (count, frame) := nextFrame (script.frames.drop script.position)
    let script := { script with position := script.position + count }
    match frame with
    | .payload payload => (.payload payload, script)
    | .deleted => (.fault, { script with hasEnded := true })
    | _ => (.fault, script)

def acknowledge : Action Unit Script Unit := fun script =>
  (.done (), { script with
    acknowledged := script.position
    acknowledgements := script.acknowledgements + 1 })

def publish (subject : String) (payload : Bytes) : Action Unit Script Unit := fun script =>
  let script := script.note (.publish subject payload)
  match script.publications with
  | [] => (.done (), script)
  | succeeds :: publications =>
    (if succeeds then .done () else .failed (), { script with publications })

/-- The server that follows a script. -/
def server : Server Script where
  openConnection := openConnection
  stream := stream
  createStream := createStream
  streamOf := streamOf
  consumer := consumer
  createConsumer := createConsumer
  subscribe := subscribe
  deliver := deliver
  acknowledge := acknowledge
  publish := publish
  flush := pure ()

end Script

end PromptRelay.Nats
