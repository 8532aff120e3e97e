import LinkPreview.Http.Head
import LinkPreview.Text.Numeral

/-!
# Bodies of responses

Where the body of a response ends is known from its head: there is none, it has a length,
it comes in chunks, or it ends with the connection.
-/

namespace LinkPreview.Http

/-- How the end of a body is known. -/
inductive Framing where
  | empty
  | length (bytes : Nat)
  | chunked
  | untilClosed
  deriving DecidableEq, Repr

/-- The text of a value that has only visible characters, spaces and tabs. -/
def visibleText? (value : List UInt8) : Option (List Char) :=
  if value.all fun b => (0x20 ≤ b && b < 0x7F) || b == 0x09 then
    some (value.map fun b => Char.ofNat b.toNat)
  else none

/-- The lengths that a value gives, between commas. -/
def lengths? (value : List UInt8) : Option (List Nat) := do
  let pieces := Text.splitWhere (· == ',') (← visibleText? value)
  pieces.mapM fun piece =>
    (Text.readNumeral? 10 (Text.trim piece)).filter (· < UInt64.size)

/-- The one length that all values agree on. -/
def agreedLength? (values : List (List UInt8)) : Option Nat := do
  match (← values.mapM lengths?).flatten with
  | [] => none
  | n :: others => if others.all (· == n) then some n else none

/-- Whether the last encoding that a value gives is the one with chunks. -/
def isChunkedValue (value : List UInt8) : Bool :=
  match visibleText? value with
  | some text =>
    Text.eqIgnoringAsciiCase (Text.trim ((Text.splitWhere (· == ',') text).getLastD []))
      "chunked".toList
  | none => false

/-- The greatest length that a body may have. -/
def maxLength : Nat := UInt64.size - 3

/-- How the end of the body is known, unless the head is contradictory. -/
def Head.framing? (h : Head) : Option Framing :=
  if h.status = 101 || h.status = 204 || h.status = 304 then some .empty
  else
    match (h.values "transfer-encoding").getLast? with
    | some last =>
      if h.minorVersion = 0 then none
      else if isChunkedValue last then some .chunked
      else some .untilClosed
    | none =>
      match h.values "content-length" with
      | [] => some .untilClosed
      | values => ((agreedLength? values).filter (· ≤ maxLength)).map .length

namespace Chunked

/-- Where in a body with chunks the reader is. -/
inductive Place where
  /-- At the first digit of a size. -/
  | start
  /-- In a size. -/
  | size (n : Nat)
  /-- In the blanks behind a size. -/
  | blanks (n : Nat)
  /-- In what may follow a size. -/
  | extension (n : Nat)
  /-- Behind the carriage return of a size. -/
  | sizeReturn (n : Nat)
  /-- In the data, of which some bytes are missing. -/
  | data (missing : Nat)
  /-- Behind the data. -/
  | dataEnd
  /-- Behind the carriage return of the data. -/
  | dataReturn
  /-- At the beginning of a line behind the last chunk. -/
  | trailerStart
  /-- In a line behind the last chunk. -/
  | trailer
  /-- Behind the carriage return of such a line. -/
  | trailerReturn
  /-- Behind the carriage return of the last line. -/
  | lastReturn
  /-- Behind the body. -/
  | finished
  deriving DecidableEq, Repr

/-- Goes on to a place if the byte is the one that is expected. -/
def expect? (expected b : UInt8) (next : Place) : Option Place :=
  if b == expected then some next else none

/-- Reads a byte behind the digits of a size. -/
def stepBehindSize? (n : Nat) (b : UInt8) : Option Place :=
  if Head.isBlankByte b then some (.blanks n)
  else if b == 0x3B then some (.extension n)
  else expect? 0x0D b (.sizeReturn n)

/-- Reads a byte; no byte may follow the end. -/
def step? (place : Place) (b : UInt8) : Option Place :=
  let digit? := if b < 0x80 then Text.digitValue? (Char.ofNat b.toNat) else none
  match place with
  | .start => digit?.map .size
  | .size n =>
    match digit? with
    | some d => if n * 16 + d < UInt64.size then some (.size (n * 16 + d)) else none
    | none => stepBehindSize? n b
  | .blanks n => stepBehindSize? n b
  | .extension n =>
    if b == 0x0D then some (.sizeReturn n) else if b == 0x0A then none else some (.extension n)
  | .sizeReturn n => expect? 0x0A b (if n = 0 then .trailerStart else .data n)
  | .data missing => some (if missing ≤ 1 then .dataEnd else .data (missing - 1))
  | .dataEnd => expect? 0x0D b .dataReturn
  | .dataReturn => expect? 0x0A b .start
  | .trailerStart => some (if b == 0x0D then .lastReturn else .trailer)
  | .trailer => some (if b == 0x0D then .trailerReturn else .trailer)
  | .trailerReturn => expect? 0x0A b .trailerStart
  | .lastReturn => expect? 0x0A b .finished
  | .finished => none

/-- Whether a byte in this place is one of the data. -/
def Place.isData : Place → Bool
  | data _ => true
  | _ => false

end Chunked

/-- What came of reading a body. -/
inductive BodyReading where
  | complete (bytes : List UInt8)
  | incomplete
  | malformed
  deriving DecidableEq, Repr

/-- A body with one more byte in front. -/
def BodyReading.push (b : UInt8) : BodyReading → BodyReading
  | complete bytes => complete (b :: bytes)
  | r => r

/-- Reads a body with chunks. What follows its end does not count. -/
def readChunks (place : Chunked.Place) (s : List UInt8) : BodyReading :=
  if place = .finished then .complete []
  else
    match s with
    | [] => .incomplete
    | b :: rest =>
      match Chunked.step? place b with
      | none => .malformed
      | some next =>
        if place.isData then (readChunks next rest).push b else readChunks next rest

/-- Reads a body, given whether the connection ends behind the bytes. -/
def Framing.read (isClosed : Bool) (s : List UInt8) : Framing → BodyReading
  | empty => .complete []
  | length n => if n ≤ s.length then .complete (s.take n) else .incomplete
  | chunked => readChunks .start s
  | untilClosed => if isClosed then .complete s else .incomplete

end LinkPreview.Http
