import LinkPreview.Url.Domain
import LinkPreview.Url.Percent

/-!
# Hosts

The host of an address with a special scheme is a domain or a network address; of
another scheme it is any text. A domain whose last label is a number has to be a
network address of four bytes, which may be written with fewer numbers and in other
bases. An address of eight pairs of bytes stands in brackets and is written in its
shortest form.
-/

namespace LinkPreview.Url

/-- A host. -/
inductive Host where
  | domain (name : String)
  | ipv4 (address : Nat)
  | ipv6 (pieces : List Nat)
  | opaqueText (text : String)
  deriving DecidableEq, Repr

namespace Ipv4

/-- What a part of an address is: no number, a number, or one that no address holds. -/
inductive Part where
  | notANumber
  | number (n : Nat)
  | tooLarge
  deriving DecidableEq, Repr

/-- Reads a part of an address: hexadecimal behind `0x`, octal behind another zero,
decimal otherwise. -/
def readPart (s : List Char) : Part :=
  let read (base : Nat) (digits : List Char) : Part :=
    match Text.readDigits? base digits with
    | none => .notANumber
    | some n => if n < UInt32.size then .number n else .tooLarge
  match s with
  | [] => .notANumber
  | '0' :: 'x' :: digits => read 16 digits
  | '0' :: 'X' :: digits => read 16 digits
  | '0' :: c :: digits => read 8 (c :: digits)
  | digits => read 10 digits

/-- The parts of a domain; an empty one at the end does not count. -/
def partsOf (domain : List Char) : List (List Char) :=
  let parts := Text.splitWhere (· == '.') domain
  if parts.getLast? = some [] then parts.dropLast else parts

/-- Whether the last label of a domain is a number, so that the domain has to be an
address. -/
def endsInNumber (domain : List Char) : Bool :=
  match (partsOf domain).getLast? with
  | none => false
  | some last => (!last.isEmpty && last.all Char.isDigit) || readPart last != .notANumber

/-- The number of an address from its parts: each but the last is one byte, and the
last fills the bytes that are left. -/
def combine? (parts : List Nat) : Option Nat :=
  match parts.reverse with
  | [] => none
  | last :: front =>
    let room := Nat.pow 256 (5 - parts.length)
    if parts.length > 4 || front.any (255 < ·) || room ≤ last then none
    else some (parts.dropLast.foldl (fun address byte => address * 256 + byte) 0 * room + last)

/-- Reads an address. -/
def read? (domain : List Char) : Option Nat := do
  let parts ← (partsOf domain).mapM fun part =>
    match readPart part with
    | .number n => some n
    | _ => none
  combine? parts

/-- The four bytes of an address. -/
def bytes (address : Nat) : List Nat :=
  [address / 0x1000000 % 256, address / 0x10000 % 256, address / 0x100 % 256, address % 256]

/-- An address in decimal. -/
def write (address : Nat) : String :=
  ".".intercalate ((bytes address).map toString)

end Ipv4

namespace Ipv6

/-- Reads a piece: up to four hexadecimal digits. -/
def readPiece? (s : List Char) : Option Nat :=
  if s.length ≤ 4 then Text.readNumeral? 16 s else none

/-- Reads the four bytes at the end of an address as two pieces. The numbers have no
leading zeros. -/
def readBytes? (s : List Char) : Option (List Nat) := do
  let bytes ← (Text.splitWhere (· == '.') s).mapM fun part =>
    if part.length > 1 && part.head? == some '0' then none
    else (Text.readNumeral? 10 part).filter (· < 256)
  match bytes with
  | [a, b, c, d] => some [a * 256 + b, c * 256 + d]
  | _ => none

/-- Reads pieces with colons between them. Where `last` is set, four bytes may stand at
the end. -/
def readPieces? (last : Bool) (s : List Char) : Option (List Nat) :=
  if s.isEmpty then some []
  else
    let parts := Text.splitWhere (· == ':') s
    let final := parts.getLastD []
    if last && final.contains '.' then do
      let front ← parts.dropLast.mapM readPiece?
      let bytes ← readBytes? final
      return front ++ bytes
    else parts.mapM readPiece?

/-- The text in front of the first double colon, and the text behind it. -/
def splitAtGap : List Char → Option (List Char × List Char)
  | ':' :: ':' :: s => some ([], s)
  | c :: s => (splitAtGap s).map fun (front, rest) => (c :: front, rest)
  | [] => none

/-- Reads an address. A double colon stands for as many zeros as are missing, at least
one. -/
def read? (s : List Char) : Option (List Nat) :=
  match splitAtGap s with
  | none => (readPieces? true s).filter (·.length == 8)
  | some (front, rest) => do
    let front ← readPieces? false front
    let rest ← readPieces? true rest
    let known := front.length + rest.length
    if known < 8 then some (front ++ List.replicate (8 - known) 0 ++ rest) else none

/-- The length of the run of zeros at the front. -/
def zeros (pieces : List Nat) : Nat :=
  (pieces.takeWhile (· == 0)).length

/-- The place and the length of the first longest run of at least two zeros. -/
def longestRun (pieces : List Nat) : Option (Nat × Nat) :=
  (List.range pieces.length).foldl (fun best i =>
    let run := zeros (pieces.drop i)
    if 2 ≤ run && (best.map (·.2)).getD 0 < run then some (i, run) else best) none

/-- Pieces in hexadecimal with colons between them. -/
def writePieces (pieces : List Nat) : String :=
  ":".intercalate (pieces.map fun n => String.ofList (Text.hex n))

/-- An address in its shortest form. -/
def write (pieces : List Nat) : String :=
  match longestRun pieces with
  | none => writePieces pieces
  | some (place, run) =>
    writePieces (pieces.take place) ++ "::" ++ writePieces (pieces.drop (place + run))

end Ipv6

namespace Host

/-- Reads the host of an address with a special scheme. -/
def readSpecial? (s : List Char) : Option Host :=
  match s with
  | '[' :: rest =>
    if rest.getLast? = some ']' then (Ipv6.read? rest.dropLast).map .ipv6 else none
  | _ => do
    let text := Text.Utf8.decodeLossy (percentDecode (Text.Utf8.encode s))
    let domain ← Domain.toAscii? text
    if domain.isEmpty then none
    else if Ipv4.endsInNumber domain then (Ipv4.read? domain).map .ipv4
    else some (.domain (String.ofList domain))

/-- The characters that no host may hold. -/
def isForbidden (c : Char) : Bool :=
  c == '\x00' || " \t\n\r#/:<>?@[\\]^|".toList.contains c

/-- Reads the host of an address with another scheme. -/
def readOpaque? (s : List Char) : Option Host :=
  match s with
  | '[' :: rest =>
    if rest.getLast? = some ']' then (Ipv6.read? rest.dropLast).map .ipv6 else none
  | _ =>
    if s.any isForbidden then none
    else some (.opaqueText (String.ofList (percentEncode isControl s)))

/-- A host as it is written. -/
def write : Host → String
  | domain name => name
  | ipv4 address => Ipv4.write address
  | ipv6 pieces => "[" ++ Ipv6.write pieces ++ "]"
  | opaqueText text => text

end Host

end LinkPreview.Url
