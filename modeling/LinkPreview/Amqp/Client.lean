import LinkPreview.Amqp.Broker
import LinkPreview.Queue.Error
import LinkPreview.Queue.Settlement
import LinkPreview.Settings

/-!
# The client of a broker

The client connects, declares its two queues, asks for confirms, limits how much it is
given at once and begins to consume, each step only when the one before was answered. A
connection on which a step fails is closed, and so is one whose session ends, unless it
was lost before. Deliveries are settled one by one on the channel that brought them, and a
message counts as published when the broker has confirmed it, or when nobody has asked it to.

## Implementation notes

All connections that were ever made are kept, by number, and the log tells what the broker
received on each of them. So a statement about a run is one about its log.
-/

namespace LinkPreview.Amqp

/-- What a session has received and not yet given out. -/
inductive Arrival where
  | message (tag : Nat) (payload : List UInt8)
  | failure
  deriving DecidableEq, Repr

/-- A connection as the client knows it. -/
structure Connection where
  isOpen : Bool := true
  hasChannel : Bool := false
  isConsuming : Bool := false
  arrivals : List Arrival := []
  deriving DecidableEq, Repr

namespace Connection

/-- The connection when its channel is gone. A session that was consuming learns of it
once. -/
def loseChannel (c : Connection) : Connection :=
  { c with
    hasChannel := false
    isConsuming := false
    arrivals := c.arrivals ++ (if c.isConsuming then [.failure] else []) }

/-- The connection when it is gone. -/
def lose (c : Connection) : Connection :=
  { c.loseChannel with isOpen := false }

/-- The connection after something that the broker did. To close a channel that was never
opened is beyond the protocol. -/
def suffer (c : Connection) : Fault → Connection
  | .refuse => c
  | .closeChannel => if c.hasChannel then c.loseChannel else c.lose
  | .drop | .closeConnection | .garbage => c.lose

/-- The connection when the broker has ended the consumer. -/
def stopConsuming (c : Connection) : Connection :=
  { c with isConsuming := false }

/-- The connection when a message has come. -/
def receive (c : Connection) (tag : Nat) (payload : List UInt8) : Connection :=
  if c.isConsuming then { c with arrivals := c.arrivals ++ [.message tag payload] } else c

end Connection

/-- A delivery that was given out: where it came from, and whether it was settled, or an
attempt was made. -/
structure Delivery where
  connection : Nat
  tag : Nat
  isSpent : Bool := false
  deriving DecidableEq, Repr

/-- The client, with what the broker has received from it. -/
structure Client where
  connections : List Connection := []
  /-- The connection of the session. -/
  session : Option Nat := none
  /-- The connection over which messages are published. -/
  publisher : Option Nat := none
  deliveries : List Delivery := []
  /-- How many messages the broker has sent. -/
  sent : Nat := 0
  log : List Entry := []
  deriving DecidableEq, Repr

/-- The name by which the client is known, also as a consumer. -/
def clientName : String := "bearlink-preview"

/-- What the client connects to: the address that it was told, what it declares there, and
the broker with the hosts and ports at which it listens. -/
structure Target where
  address : String
  topology : Topology
  broker : Broker
  isListening : String → Nat → Bool

namespace Client

/-- The connection with a number. -/
def connection? (s : Client) (i : Nat) : Option Connection :=
  s.connections[i]?

/-- Whether a connection is there and fulfils a condition. -/
def connectionIs (s : Client) (i : Nat) (p : Connection → Bool) : Bool :=
  (s.connection? i).any p

/-- Whether the broker has granted that it confirms what is published on a connection. -/
def hasConfirms (s : Client) (i : Nat) : Bool :=
  s.log.any fun e => e.connection == i && e.method == .selectConfirms && e.isAnswered

/-- Changes a connection. -/
def update (s : Client) (i : Nat) (f : Connection → Connection) : Client :=
  { s with connections := s.connections.modify i f }

/-- Sends something on a connection: what the broker does instead of answering. -/
def send (b : Broker) (i : Nat) (m : Method) (s : Client) : Client × Option Fault :=
  let fault := b.fault? s.log m
  let s := { s with log := s.log ++ [⟨i, m, fault⟩] }
  match fault with
  | none => (s, none)
  | some f => (s.update i (·.suffer f), some f)

/-- Sends several things, each when the one before was answered: whether all were. -/
def sendAll (b : Broker) (i : Nat) : List Method → Client → Client × Bool
  | [], s => (s, true)
  | m :: ms, s =>
    match s.send b i m with
    | (s, none) | (s, some .refuse) => sendAll b i ms s
    | (s, some _) => (s, false)

/-- Closes a connection unless it is gone. -/
def close (b : Broker) (i : Nat) (reason : String) (s : Client) : Client :=
  if s.connectionIs i (·.isOpen) then
    (s.send b i (.closeConnection 200 reason)).1.update i (·.lose)
  else s

/-- What is said before the limits are agreed on. -/
def greeting (a : Address) : List Method :=
  [.header, .startOk a.mechanism.name (a.mechanism.response a.username a.password) clientName]

/-- Opens a new connection at the protocol's level. The virtual host is asked for without
waiting for an answer to the limits. -/
def greet (b : Broker) (a : Address) (i : Nat) (s : Client) : Client × Bool :=
  match s.sendAll b i (greeting a) with
  | (s, false) => (s, false)
  | (s, true) =>
    match s.send b i (.tuneOk (Limits.agreed a b.offer)) with
    | (s, some .drop) => (s, false)
    | (s, tuned) =>
      let (s, isOpened) := s.sendAll b i [.openConnection a.virtualHost]
      (s, isOpened && (tuned.isNone || tuned == some .refuse))

/-- What is said on a channel before jobs come. -/
def preparation (t : Topology) : List Method :=
  [.openChannel 1, .declareQueue t.jobQueue true, .declareQueue t.resultQueue true,
    .selectConfirms, .limitPrefetch t.prefetch, .consume t.jobQueue clientName]

/-- Prepares a channel of an open connection. -/
def prepare (b : Broker) (t : Topology) (i : Nat) (s : Client) : Client × Bool :=
  match (s.update i ({ · with hasChannel := true })).sendAll b i (preparation t) with
  | (s, true) => (s.update i ({ · with isConsuming := true }), true)
  | (s, false) => (s, false)

/-- Ends the session. -/
def endSession (b : Broker) (s : Client) : Client :=
  match s.session with
  | none => s
  | some i => { s with session := none }.close b i "consumer session ended"

/-- Makes a new connection to a broker: whether it can be used. A new session takes the
place of the one before. -/
def dial (b : Broker) (a : Address) (t : Topology) (s : Client) : Client × Bool :=
  let i := s.connections.length
  match { s with connections := s.connections ++ [({} : Connection)] }.greet b a i with
  | (s, false) => (s.update i (·.lose), false)
  | (s, true) =>
    match s.prepare b t i with
    | (s, false) => (s.close b i "consumer setup failed", false)
    | (s, true) => ({ s.endSession b with session := some i, publisher := some i }, true)

/-- Connects: whether it went well. -/
def connect (t : Target) (s : Client) : Client × Bool :=
  match Address.read? t.address with
  | none => (s, false)
  | some a =>
    if t.isListening a.host a.port && a.timeout != some 0 then s.dial t.broker a t.topology
    else (s, false)

end Client

/-- What the session gives out next. Deliveries are numbered from 0 over all sessions. -/
inductive Next where
  | delivery (number : Nat) (payload : List UInt8)
  | failure
  | ended
  /-- Nothing has come. -/
  | nothing
  deriving DecidableEq, Repr

/-- What came of publishing a message. -/
inductive Publication where
  | confirmed
  /-- Confirms were not granted, so there is nothing to wait for. -/
  | unconfirmed
  | refused (queue : String)
  | failed
  deriving DecidableEq, Repr

/-- What came of a message that is to be confirmed, by what the broker did instead. -/
def Publication.ofFault (queue : String) : Option Fault → Publication
  | none => .confirmed
  | some .refuse => .refused queue
  | some _ => .failed

/-- Whether a message counts as published. -/
def Publication.isOk : Publication → Bool
  | confirmed | unconfirmed => true
  | refused _ | failed => false

/-- The error that is reported, as far as it is known without the network. -/
def Publication.error? : Publication → Option Queue.Error
  | confirmed | unconfirmed | failed => none
  | refused queue => some (.transport ("broker refused message for queue " ++ queue))

/-- What settles a delivery. It is never about more than this one. -/
def settling (tag : Nat) : Queue.Settlement → Method
  | .ack => .ack tag false
  | .reject => .reject tag false
  | .requeue => .nack tag false true

/-- The message for a queue: one that survives a restart of the broker. -/
def message (queue : String) (body : List UInt8) : Method :=
  .publish queue "application/json" 2 body

namespace Client

/-- Takes what the session gives out next. -/
def next (s : Client) : Client × Next :=
  match s.session.bind fun i => (s.connection? i).map (i, ·) with
  | none => (s, .ended)
  | some (i, c) =>
    match c.arrivals with
    | .message tag payload :: rest =>
      let s := s.update i ({ · with arrivals := rest })
      ({ s with deliveries := s.deliveries ++ [⟨i, tag, false⟩] },
        .delivery s.deliveries.length payload)
    | .failure :: rest => (s.update i ({ · with arrivals := rest }), .failure)
    | [] => (s, if c.isConsuming then .nothing else .ended)

/-- Settles the delivery with a number: whether that could be sent. No delivery is settled
twice. -/
def settle (b : Broker) (number : Nat) (how : Queue.Settlement) (s : Client) : Client × Bool :=
  match s.deliveries[number]? with
  | none => (s, false)
  | some d =>
    let spent :=
      { s with deliveries := s.deliveries.modify number ({ · with isSpent := true }) }
    if !d.isSpent && s.connectionIs d.connection (·.hasChannel) then
      ((spent.send b d.connection (settling d.tag how)).1, true)
    else (spent, false)

/-- Publishes a message, and waits until the broker has confirmed it if it has granted that. -/
def publish (b : Broker) (queue : String) (body : List UInt8) (s : Client) :
    Client × Publication :=
  match s.publisher.filter (s.connectionIs · (·.hasChannel)) with
  | none => (s, .failed)
  | some i =>
    let (sent, fault) := s.send b i (message queue body)
    (sent, if s.hasConfirms i then .ofFault queue fault else .unconfirmed)

/-- The broker sends a message to the session. -/
def push (payload : List UInt8) (s : Client) : Client :=
  let sent := { s with sent := s.sent + 1 }
  match s.session with
  | none => sent
  | some i => sent.update i (·.receive (s.sent + 1) payload)

/-- The broker does something to the session of its own accord. -/
def suffer (f : Fault) (s : Client) : Client :=
  match s.session with
  | none => s
  | some i => if s.connectionIs i (·.isOpen) then s.update i (·.suffer f) else s

/-- The broker ends the consumer of the session. -/
def stopConsuming (s : Client) : Client :=
  match s.session with
  | none => s
  | some i => s.update i (·.stopConsuming)

end Client

/-- What can happen to a client. -/
inductive Action where
  | connect
  | push (payload : List UInt8)
  | next
  | settle (number : Nat) (how : Queue.Settlement)
  | publish (queue : String) (body : List UInt8)
  | fail (fault : Fault)
  | stopConsuming
  | endSession
  deriving DecidableEq, Repr

/-- What comes of it. -/
inductive Effect where
  | done (isOk : Bool)
  | next (next : Next)
  | publication (publication : Publication)
  deriving DecidableEq, Repr

/-- The error that comes of it, where the network has an account of what went wrong on it. -/
def Effect.error? (account : String) : Effect → Option Queue.Error
  | done false | next .failure | publication .failed => some (.transport account)
  | publication p => p.error?
  | done true | next _ => none

/-- Lets something happen to a client. -/
def Client.act (t : Target) (s : Client) : Action → Client × Effect
  | .connect => let (s, isOk) := s.connect t; (s, .done isOk)
  | .push payload => (s.push payload, .done true)
  | .next => let (s, n) := s.next; (s, .next n)
  | .settle number how => let (s, isOk) := s.settle t.broker number how; (s, .done isOk)
  | .publish queue body =>
    let (s, p) := s.publish t.broker queue body
    (s, .publication p)
  | .fail fault => (s.suffer fault, .done true)
  | .stopConsuming => (s.stopConsuming, .done true)
  | .endSession => (s.endSession t.broker, .done true)

/-- Lets several things happen to a client, one after another: what the broker received
for each, and what came of it. -/
def Client.actAll (t : Target) : Client → List Action → List (List Entry × Effect)
  | _, [] => []
  | s, a :: as =>
    let (after, effect) := s.act t a
    (after.log.drop s.log.length, effect) :: after.actAll t as

end LinkPreview.Amqp
