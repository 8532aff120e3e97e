import LinkPreview.Charset.Reading

/-!
# UTF-16

Code points above the first plane are written as two units, of which neither may stand
alone.
-/

namespace LinkPreview.Charset.Utf16

/-- Which byte of a unit comes first. -/
inductive Order where
  | little
  | big
  deriving DecidableEq, Repr

/-- The unit of two bytes. -/
def unit (order : Order) (first second : UInt8) : Nat :=
  match order with
  | .little => second.toNat * 256 + first.toNat
  | .big => first.toNat * 256 + second.toNat

/-- Whether a unit is the first one of two. -/
def isHigh (n : Nat) : Bool :=
  0xD800 ≤ n && n ≤ 0xDBFF

/-- Whether a unit is the second one of two. -/
def isLow (n : Nat) : Bool :=
  0xDC00 ≤ n && n ≤ 0xDFFF

/-- Reads a character behind a unit that is the first one of two. Text that ends before
the second one is complete is replaced as a whole. -/
def readPair (order : Order) (high : Nat) : List UInt8 → Reading
  | third :: fourth :: _ =>
    let low := unit order third fourth
    if isLow low then
      ⟨[Char.ofNat (0x10000 + (high - 0xD800) * 0x400 + (low - 0xDC00))], 3⟩
    else ⟨[replacement], 1⟩
  | rest => ⟨[replacement], 1 + rest.length⟩

/-- Reads the first character. -/
def readFirst (order : Order) (first : UInt8) : List UInt8 → Reading
  | [] => .broken
  | second :: rest =>
    let n := unit order first second
    if isHigh n then readPair order n rest
    else if isLow n then ⟨[replacement], 1⟩
    else ⟨[Char.ofNat n], 1⟩

end LinkPreview.Charset.Utf16
