import LinkPreview.Http.Form
import LinkPreview.Url.Reading

/-!
# Addresses of brokers

The address of a broker tells where it listens, who asks, which of its virtual hosts is
meant, and what the client wishes of the connection. What is not written has a default.
-/

namespace LinkPreview.Amqp

/-- How a client proves who it is. -/
inductive Mechanism where
  | plain
  | amqplain
  | anonymous
  | external
  | demo
  deriving DecidableEq, Repr

namespace Mechanism

/-- The name under which the protocol knows the mechanism. -/
def name : Mechanism → String
  | plain => "PLAIN"
  | amqplain => "AMQPLAIN"
  | anonymous => "ANONYMOUS"
  | external => "EXTERNAL"
  | demo => "RABBIT-CR-DEMO"

/-- Reads a name, in any case of its letters. -/
def read? (text : String) : Option Mechanism :=
  [plain, amqplain, anonymous, external, demo].find? fun m =>
    Text.eqIgnoringAsciiCase m.name.toList text.toList

/-- A field of a table whose name and value are short. -/
def field (name value : String) : List Char :=
  let length (s : String) := Char.ofNat (Text.Utf8.encode s.toList).length
  length name :: name.toList ++ ['S', '\x00', '\x00', '\x00', length value] ++ value.toList

/-- What a client answers to the question who it is. -/
def response (m : Mechanism) (username password : String) : String :=
  match m with
  | plain => "\x00" ++ username ++ "\x00" ++ password
  | amqplain => String.ofList (field "LOGIN" username ++ field "PASSWORD" password)
  | anonymous | external => ""
  | demo => username

end Mechanism

/-- The address of a broker. -/
structure Address where
  username : String
  password : String
  host : String
  port : Nat
  virtualHost : String
  frameMax : Option Nat := none
  channelMax : Option Nat := none
  heartbeat : Option Nat := none
  /-- How long the client waits for the connection, in milliseconds. -/
  timeout : Option Nat := none
  mechanism : Mechanism := .plain
  deriving DecidableEq, Repr

namespace Address

/-- The text that a part of an address stands for. -/
def decode? (part : String) : Option String :=
  (Text.Utf8.decode? (Url.percentDecode (Text.Utf8.encode part.toList))).map String.ofList

/-- The text of a part, or its default if it is empty. -/
def decodeOr? (default part : String) : Option String :=
  if part = "" then some default else decode? part

/-- The name of the host, if it is one. -/
def hostName (u : Url) : String :=
  match u.host with
  | some (.domain name) => name
  | some (.opaqueText text) => text
  | _ => ""

/-- The first wish with a name, which must be a number of at most `limit`. -/
def wish? (wishes : List (String × String)) (name : String) (limit : Nat) :
    Option (Option Nat) :=
  match wishes.lookup name with
  | none => some none
  | some value => (Text.readBounded? limit value.toList).map some

/-- The first wish for a mechanism. -/
def mechanism? (wishes : List (String × String)) : Option Mechanism :=
  match wishes.lookup "auth_mechanism" with
  | none => some .plain
  | some value => Mechanism.read? value

/-- Reads the address of a broker. -/
def read? (text : String) : Option Address := do
  let u ← Url.read? text
  match u.path with
  | .flat _ => none
  | path =>
    if u.scheme = "amqp" then
      let wishes := Http.Form.read (u.query.getD "")
      return {
        username := ← decodeOr? "guest" u.username
        password := ← decodeOr? "guest" u.password
        host := ← decodeOr? "localhost" (hostName u)
        port := u.port.getD 5672
        virtualHost :=
          ← if path.write = "" then some "/" else decode? (path.write.drop 1).toString
        frameMax := ← wish? wishes "frame_max" (UInt32.size - 1)
        channelMax := ← wish? wishes "channel_max" (UInt16.size - 1)
        heartbeat := ← wish? wishes "heartbeat" (UInt16.size - 1)
        timeout := ← wish? wishes "connection_timeout" (UInt64.size - 1)
        mechanism := ← mechanism? wishes }
    else none

end Address

/-- What both sides of a connection keep to: the most channels, the largest frame in
bytes, and the seconds between signs of life, or 0 for none. -/
structure Limits where
  channelMax : Nat
  frameMax : Nat
  heartbeat : Nat
  deriving DecidableEq, Repr

namespace Limits

/-- The least size that a frame may be limited to. -/
def leastFrameMax : Nat := 8192

/-- The lower of a wish and an offer. Either gives way to the other if it is 0. -/
def lower (wish offer : Nat) : Nat :=
  if wish = 0 || (offer ≠ 0 && offer < wish) then offer else wish

/-- The limits that a client settles on when a broker offers some. -/
def agreed (a : Address) (offer : Limits) : Limits where
  channelMax :=
    match lower (a.channelMax.getD 0) offer.channelMax with
    | 0 => UInt16.size - 1
    | n => n
  frameMax :=
    match lower ((a.frameMax.map (max leastFrameMax)).getD 0) offer.frameMax with
    | 0 => UInt32.size - 1
    | n => max leastFrameMax n
  heartbeat := lower (a.heartbeat.getD 0) offer.heartbeat

end Limits

end LinkPreview.Amqp
