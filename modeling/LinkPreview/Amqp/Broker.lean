import LinkPreview.Amqp.Method

/-!
# Brokers

A broker answers what a client sends as the protocol demands, or does something else
instead. What it does may depend on all that it has received before.
-/

namespace LinkPreview.Amqp

/-- What a broker does instead of the answer that is expected: it drops the connection,
closes the channel or the connection, sends what nobody can read, or refuses a message. -/
inductive Fault where
  | drop
  | closeChannel
  | closeConnection
  | garbage
  | refuse
  deriving DecidableEq, Repr

/-- Something that a broker received, with the number of the connection on which it came,
and what the broker did instead of answering, if it did. -/
structure Entry where
  connection : Nat
  method : Method
  fault : Option Fault
  deriving DecidableEq, Repr

/-- Whether the broker gave the answer that is waited for. Only a message can be refused: whatever
else it would refuse, it answers. -/
def Entry.isAnswered (e : Entry) : Bool :=
  e.fault == none || e.fault == some .refuse

/-- A broker: the limits that it offers, and what it does instead of answering, given
what it has received before. -/
structure Broker where
  offer : Limits
  fault? : List Entry → Method → Option Fault

/-- The broker that misbehaves after a plan, which tells for each name of a method what it
does at the first, second, … time. -/
def Broker.scripted (offer : Limits) (plan : String → List (Option Fault)) : Broker where
  offer := offer
  fault? log m :=
    let earlier := (log.filter (·.method.name == m.name)).length
    ((plan m.name)[earlier]?).join

end LinkPreview.Amqp
