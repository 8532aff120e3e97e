import LinkPreview.Amqp.Address

/-!
# What a client sends to a broker
-/

namespace LinkPreview.Amqp

/-- What a client sends to a broker. -/
inductive Method where
  | header
  | startOk (mechanism response name : String)
  | tuneOk (limits : Limits)
  | openConnection (virtualHost : String)
  | openChannel (number : Nat)
  | declareQueue (name : String) (isDurable : Bool)
  | selectConfirms
  | limitPrefetch (count : Nat)
  | consume (queue tag : String)
  | publish (queue contentType : String) (deliveryMode : Nat) (body : List UInt8)
  | ack (tag : Nat) (isMultiple : Bool)
  | reject (tag : Nat) (isRequeued : Bool)
  | nack (tag : Nat) (isMultiple isRequeued : Bool)
  | closeConnection (code : Nat) (reason : String)
  deriving DecidableEq, Repr

/-- The name of a method in the protocol. -/
def Method.name : Method → String
  | header => "header"
  | startOk .. => "connection.start-ok"
  | tuneOk .. => "connection.tune-ok"
  | openConnection .. => "connection.open"
  | openChannel .. => "channel.open"
  | declareQueue .. => "queue.declare"
  | selectConfirms => "confirm.select"
  | limitPrefetch .. => "basic.qos"
  | consume .. => "basic.consume"
  | publish .. => "basic.publish"
  | ack .. => "basic.ack"
  | reject .. => "basic.reject"
  | nack .. => "basic.nack"
  | closeConnection .. => "connection.close"

end LinkPreview.Amqp
