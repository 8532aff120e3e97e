import LinkPreview.Text.Numeral
import LinkPreview.Text.Utf8

/-!
# Percent encoding

A character that a part of an address may not hold is written as its bytes, each as a
percent sign and two hexadecimal digits. Which characters these are depends on the
part; controls and characters outside ASCII are among them everywhere.
-/

namespace LinkPreview.Url

/-- Whether a character is written as its bytes in every part. -/
def isControl (c : Char) : Bool :=
  c.toNat < 0x20 || 0x7F ≤ c.toNat

/-- The characters that a fragment may not hold. -/
def notInFragment (c : Char) : Bool :=
  isControl c || [' ', '"', '<', '>', '\x60'].contains c

/-- The characters that a query may not hold. -/
def notInQuery (c : Char) : Bool :=
  isControl c || [' ', '"', '#', '<', '>'].contains c

/-- The characters that the query of an address with a special scheme may not hold. -/
def notInSpecialQuery (c : Char) : Bool :=
  notInQuery c || c == '\''

/-- The characters that a path may not hold. -/
def notInPath (c : Char) : Bool :=
  notInFragment c || ['#', '?', '\x7b', '\x7d'].contains c

/-- The characters that a user name or a password may not hold. -/
def notInUserInfo (c : Char) : Bool :=
  notInPath c || ['/', ':', ';', '=', '@', '[', '\\', ']', '^', '|'].contains c

/-- A byte as a percent sign and two digits. -/
def percentByte (b : UInt8) : List Char :=
  '%' :: Text.padLeft 2 ((Nat.toDigits 16 b.toNat).map Char.toUpper)

/-- Writes those characters as bytes that `p` names. -/
def percentEncode (p : Char → Bool) (s : List Char) : List Char :=
  s.flatMap fun c => if p c then (Text.Utf8.encode [c]).flatMap percentByte else [c]

/-- Reads every percent sign that two hexadecimal digits follow as the byte that they
name. -/
def percentDecode : List UInt8 → List UInt8
  | 0x25 :: a :: b :: s =>
    match Text.digitValue? (Char.ofNat a.toNat), Text.digitValue? (Char.ofNat b.toNat) with
    | some x, some y => UInt8.ofNat (16 * x + y) :: percentDecode s
    | _, _ => 0x25 :: percentDecode (a :: b :: s)
  | c :: s => c :: percentDecode s
  | [] => []

end LinkPreview.Url
