import LinkPreview.Http.Target

/-!
# Heads of responses

A response begins with a status line and header fields, each on a line of its own, and an
empty line. The head is read byte by byte: after each byte it is complete, can still become
complete, or is malformed. Responses that only inform, those with a status below 200
besides 101, are skipped.
-/

namespace LinkPreview.Http

/-- A header field. -/
structure Field where
  /-- The name, in small letters. -/
  name : String
  value : List UInt8
  deriving DecidableEq, Repr

/-- The head of a response. -/
structure Head where
  /-- The digit behind `HTTP/1.`. -/
  minorVersion : Nat
  status : Nat
  fields : List Field
  deriving DecidableEq, Repr

namespace Head

/-- The values of the fields with a name, in order. -/
def values (h : Head) (name : String) : List (List UInt8) :=
  (h.fields.filter (·.name == name)).map (·.value)

/-- Whether the response only informs, and another one follows. -/
def isInformational (h : Head) : Bool :=
  h.status < 200 && h.status != 101

/-- Where in a head the reader is. -/
inductive Place where
  /-- In front of the status line, where empty lines may stand. -/
  | start
  /-- Behind the carriage return of an empty line in front. -/
  | startReturn
  /-- In the version, in front of these bytes. -/
  | version (expected : List UInt8)
  /-- At the last digit of the version. -/
  | minorVersion
  /-- At the space behind the version. -/
  | statusSpace
  /-- In the status, of which some digits are missing. -/
  | status (missing : Nat)
  /-- Behind the status. -/
  | statusEnd
  /-- In the words behind the status. -/
  | reason
  /-- Behind a carriage return that ends a line. -/
  | lineReturn
  /-- At the beginning of a line. -/
  | line
  /-- In the name of a field. -/
  | name
  /-- In the blanks in front of a value. -/
  | valueStart
  /-- In the value of a field. -/
  | value
  /-- Behind the carriage return that ends a value. -/
  | valueReturn
  /-- Behind the carriage return of the last line. -/
  | lastReturn
  deriving DecidableEq, Repr

/-- A head of which some bytes were read. The fields, and the bytes of the last name and
value, stand in reverse order. -/
structure Unfinished where
  place : Place := .start
  minorVersion : Nat := 1
  status : Nat := 0
  fields : List Field := []
  name : List UInt8 := []
  value : List UInt8 := []

/-- What is known after a byte. -/
inductive Progress where
  | ongoing (read : Unfinished)
  | complete (head : Head)
  | malformed

/-- The most fields that a head may have. -/
def maxFields : Nat := 100

/-- Whether a byte may stand in the name of a field. -/
def isNameByte (b : UInt8) : Bool :=
  b < 0x80 && isTokenChar (Char.ofNat b.toNat)

/-- Whether a byte is a space or a tab. -/
def isBlankByte (b : UInt8) : Bool :=
  b == 0x20 || b == 0x09

/-- Whether a byte may stand in the value of a field. -/
def isValueByte (b : UInt8) : Bool :=
  (0x20 ≤ b && b != 0x7F) || b == 0x09

/-- The text of bytes of ASCII. -/
def asciiText (s : List UInt8) : String :=
  String.ofList (s.map fun b => Char.ofNat b.toNat)

namespace Unfinished

/-- The head whose last line was read. -/
def head (p : Unfinished) : Head :=
  ⟨p.minorVersion, p.status, p.fields.reverse⟩

/-- Takes up the field whose value was read. Blanks at its end do not count. -/
def addField (p : Unfinished) : Unfinished :=
  let name := asciiText p.name.reverse
  let value := (p.value.dropWhile isBlankByte).reverse
  { p with
    place := .line
    fields := ⟨String.ofList (Text.asciiLower name.toList), value⟩ :: p.fields
    name := []
    value := [] }

/-- Reads the first byte of a line. -/
def stepLine (p : Unfinished) (b : UInt8) : Progress :=
  if b == 0x0D then .ongoing { p with place := .lastReturn }
  else if b == 0x0A then .complete p.head
  else if isNameByte b && p.fields.length < maxFields then
    .ongoing { p with place := .name, name := [b] }
  else .malformed

/-- Reads a byte of a value. -/
def stepValue (p : Unfinished) (b : UInt8) : Progress :=
  if b == 0x0D then .ongoing { p with place := .valueReturn }
  else if b == 0x0A then .ongoing p.addField
  else if isValueByte b then .ongoing { p with place := .value, value := b :: p.value }
  else .malformed

/-- Goes on to a place if the byte is the one that is expected. -/
def expect (p : Unfinished) (expected b : UInt8) (next : Place) : Progress :=
  if b == expected then .ongoing { p with place := next } else .malformed

/-- Reads a byte. -/
def step (p : Unfinished) (b : UInt8) : Progress :=
  match p.place with
  | .start =>
    if b == 0x0D then .ongoing { p with place := .startReturn }
    else if b == 0x0A then .ongoing p
    else p.expect 0x48 b (.version [0x54, 0x54, 0x50, 0x2F, 0x31, 0x2E])
  | .startReturn => p.expect 0x0A b .start
  | .version [] => .malformed
  | .version [last] => p.expect last b .minorVersion
  | .version (next :: rest) => p.expect next b (.version rest)
  | .minorVersion =>
    if b == 0x30 || b == 0x31 then
      .ongoing { p with place := .statusSpace, minorVersion := b.toNat - 0x30 }
    else .malformed
  | .statusSpace => p.expect 0x20 b (.status 3)
  | .status missing =>
    if 0x30 ≤ b && b ≤ 0x39 then
      .ongoing { p with
        place := if missing ≤ 1 then .statusEnd else .status (missing - 1)
        status := p.status * 10 + (b.toNat - 0x30) }
    else .malformed
  | .statusEnd =>
    if p.status < 100 then .malformed
    else if b == 0x20 then .ongoing { p with place := .reason }
    else if b == 0x0D then .ongoing { p with place := .lineReturn }
    else p.expect 0x0A b .line
  | .reason =>
    if b == 0x0D then .ongoing { p with place := .lineReturn }
    else if b == 0x0A then .ongoing { p with place := .line }
    else if isValueByte b then .ongoing p
    else .malformed
  | .lineReturn => p.expect 0x0A b .line
  | .line => p.stepLine b
  | .name =>
    if b == 0x3A then .ongoing { p with place := .valueStart }
    else if isNameByte b then .ongoing { p with name := b :: p.name }
    else .malformed
  | .valueStart => if isBlankByte b then .ongoing p else p.stepValue b
  | .value => p.stepValue b
  | .valueReturn => if b == 0x0A then .ongoing p.addField else .malformed
  | .lastReturn => if b == 0x0A then .complete p.head else .malformed

end Unfinished

/-- What came of reading a head. -/
inductive Reading where
  | complete (head : Head) (rest : List UInt8)
  | incomplete
  | malformed

/-- Reads the head of a response behind what was read of it. -/
def readBehind (p : Unfinished) : List UInt8 → Reading
  | [] => .incomplete
  | b :: rest =>
    match p.step b with
    | .ongoing p => readBehind p rest
    | .complete h => if h.isInformational then readBehind {} rest else .complete h rest
    | .malformed => .malformed

/-- Reads the head of a response. -/
def read (s : List UInt8) : Reading :=
  readBehind {} s

end Head

end LinkPreview.Http
