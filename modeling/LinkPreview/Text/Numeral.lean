/-!
# Numerals

Digits have values up to fifteen, a numeral is read most significant digit
first, and a written numeral has no leading zero and small letters.
-/

namespace LinkPreview.Text

/-- The value of a decimal or hexadecimal digit, in either case of its letters. -/
def digitValue? (c : Char) : Option Nat :=
  if '0' ≤ c && c ≤ '9' then some (c.toNat - '0'.toNat)
  else if 'a' ≤ c && c ≤ 'f' then some (c.toNat - 'a'.toNat + 10)
  else if 'A' ≤ c && c ≤ 'F' then some (c.toNat - 'A'.toNat + 10)
  else none

/-- The value of a digit of the given base. -/
def digitBelow? (base : Nat) (c : Char) : Option Nat :=
  (digitValue? c).filter (· < base)

/-- Reads digits of the given base; a text with another character has no value. -/
def readDigits? (base : Nat) (s : List Char) : Option Nat :=
  s.foldl (fun value c => do return base * (← value) + (← digitBelow? base c)) (some 0)

/-- Reads a numeral of at least one digit. -/
def readNumeral? (base : Nat) (s : List Char) : Option Nat :=
  if s.isEmpty then none else readDigits? base s

/-- Reads a decimal number that may carry a plus sign and is at most `limit`. -/
def readBounded? (limit : Nat) (s : List Char) : Option Nat :=
  let digits := match s with
    | '+' :: rest => rest
    | _ => s
  (readNumeral? 10 digits).filter (· ≤ limit)

/-- The digits of a number in base sixteen, in small letters. -/
def hex (n : Nat) : List Char :=
  Nat.toDigits 16 n

/-- A numeral filled up with zeros on the left to a given width. -/
def padLeft (width : Nat) (digits : List Char) : List Char :=
  List.replicate (width - digits.length) '0' ++ digits

/-- A number in decimal digits, filled up with zeros to a given width. -/
def padded (width n : Nat) : List Char :=
  padLeft width (Nat.toDigits 10 n)

end LinkPreview.Text
