import LinkPreview.Amqp.Client

/-!
# Programs that hold several sessions

A program may hold several sessions at once, end them in any order, and keep what it got of a
session that has ended: its publisher, and the deliveries that are not settled. What it does with a
session is what a client does whose session this is. The broker chooses the tags of its messages,
so the same tag may be in use on several connections.
-/

namespace LinkPreview.Amqp

/-- A session that was opened, and whether it is still held. -/
structure Session where
  connection : Nat
  isHeld : Bool := true
  deriving DecidableEq, Repr

/-- A program with its client and all sessions that it opened. -/
structure Holder where
  client : Client := {}
  sessions : List Session := []
  deriving DecidableEq, Repr

/-- What can happen to a holder of sessions. Sessions are numbered from 0, and so are deliveries
over all sessions. -/
inductive Step where
  | connect
  | deliver (session tag : Nat) (payload : List UInt8)
  | next (session : Nat)
  | settle (number : Nat) (how : Queue.Settlement)
  | publish (session : Nat) (queue : String) (body : List UInt8)
  | fail (session : Nat) (fault : Fault)
  | stopConsuming (session : Nat)
  | endSession (session : Nat)
  deriving DecidableEq, Repr

namespace Step

/-- The session that a step is about. To open a further one is about none, and deliveries are
settled whatever became of their session. -/
def session? : Step → Option Nat
  | connect | settle .. => none
  | deliver k .. | next k | publish k .. | fail k _ | stopConsuming k | endSession k => some k

end Step

namespace Client

/-- The broker sends a message to the session, under a tag of its choice. -/
def deliver (tag : Nat) (payload : List UInt8) (s : Client) : Client :=
  match s.session with
  | none => s
  | some i => s.update i (·.receive tag payload)

/-- A broker that numbers all its messages chooses the next number. -/
theorem push_eq_deliver (payload : List UInt8) (s : Client) :
    s.push payload = { s with sent := s.sent + 1 }.deliver (s.sent + 1) payload := by
  unfold push deliver
  cases s.session <;> rfl

/-- What becomes of a client whose session a step is about, and what comes of it. -/
def step (t : Target) (s : Client) : Step → Client × Effect
  | .connect => s.act t .connect
  | .deliver _ tag payload => (s.deliver tag payload, .done true)
  | .next _ => s.act t .next
  | .settle number how => s.act t (.settle number how)
  | .publish _ queue body => s.act t (.publish queue body)
  | .fail _ fault => s.act t (.fail fault)
  | .stopConsuming _ => s.act t .stopConsuming
  | .endSession _ => s.act t .endSession

end Client

namespace Holder

/-- The client of a program that turns to one of its sessions, or to none. -/
def turnedTo (h : Holder) (session : Option Nat) : Client :=
  let turned := session.bind (h.sessions[·]?)
  { h.client with
    session := (turned.filter (·.isHeld)).map (·.connection)
    publisher := turned.map (·.connection) }

/-- What becomes of the sessions: there is a further one after a connection that can be used, and
one that is ended is held no longer. -/
def sessionsAfter (h : Holder) : Step → Effect → List Session
  | .connect, .done true => h.sessions ++ [⟨h.client.connections.length, true⟩]
  | .endSession k, _ => h.sessions.modify k ({ · with isHeld := false })
  | _, _ => h.sessions

/-- Lets something happen to a holder of sessions. -/
def act (t : Target) (h : Holder) (step : Step) : Holder × Effect :=
  let (client, effect) := (h.turnedTo step.session?).step t step
  ({ client, sessions := h.sessionsAfter step effect }, effect)

/-- The holder after several steps. -/
def afterAll (t : Target) (steps : List Step) : Holder :=
  steps.foldl (fun h step => (h.act t step).1) {}

end Holder

end LinkPreview.Amqp
