/-!
# UTF-8

Bytes are numbers below 256. `decode?` reads bytes that are UTF-8; `decodeLossy`
reads any bytes and puts a replacement character for every longest piece that could
have begun a character.
-/

namespace LinkPreview.Text.Utf8

/-- The bytes of a text. -/
def encode (s : List Char) : List UInt8 :=
  s.flatMap String.utf8EncodeChar

/-- What the first byte of a character says: how many bytes follow, the least and the
greatest value of the next byte, and its own share of the code point. -/
structure Lead where
  following : Nat
  low : Nat
  high : Nat
  share : Nat

/-- Reads the first byte of a character. -/
def lead? (b : UInt8) : Option Lead :=
  let n := b.toNat
  if n < 0x80 then some ⟨0, 0, 0, n⟩
  else if 0xC2 ≤ n ∧ n ≤ 0xDF then some ⟨1, 0x80, 0xBF, n - 0xC0⟩
  else if n = 0xE0 then some ⟨2, 0xA0, 0xBF, 0⟩
  else if n = 0xED then some ⟨2, 0x80, 0x9F, n - 0xE0⟩
  else if 0xE1 ≤ n ∧ n ≤ 0xEF then some ⟨2, 0x80, 0xBF, n - 0xE0⟩
  else if n = 0xF0 then some ⟨3, 0x90, 0xBF, 0⟩
  else if 0xF1 ≤ n ∧ n ≤ 0xF3 then some ⟨3, 0x80, 0xBF, n - 0xF0⟩
  else if n = 0xF4 then some ⟨3, 0x80, 0x8F, n - 0xF0⟩
  else none

/-- Reads the bytes behind the first one of a character: the code point if the
character is complete, and how many bytes were taken. -/
def follow (share : Nat) : Nat → Nat → Nat → Nat → List UInt8 → Option Nat × Nat
  | 0, _, _, taken, _ => (some share, taken)
  | _ + 1, _, _, taken, [] => (none, taken)
  | following + 1, low, high, taken, b :: s =>
    if low ≤ b.toNat ∧ b.toNat ≤ high then
      follow (share * 64 + (b.toNat - 0x80)) following 0x80 0xBF (taken + 1) s
    else (none, taken)

/-- Reads the first character: the character, if there is a complete one, and how many
further bytes were taken. -/
def readFirst (b : UInt8) (s : List UInt8) : Option Char × Nat :=
  match lead? b with
  | none => (none, 0)
  | some l =>
    match follow l.share l.following l.low l.high 0 s with
    | (some code, taken) => (some (Char.ofNat code), taken)
    | (none, taken) => (none, taken)

/-- The text that the bytes are, if they are UTF-8. -/
def decode? (s : List UInt8) : Option (List Char) :=
  match s with
  | [] => some []
  | b :: rest =>
    match readFirst b rest with
    | (some c, taken) => (decode? (rest.drop taken)).map (c :: ·)
    | (none, _) => none
termination_by s.length
decreasing_by simp only [List.length_drop, List.length_cons]; omega

/-- The text of any bytes, with replacement characters for what is not UTF-8. -/
def decodeLossy (s : List UInt8) : List Char :=
  match s with
  | [] => []
  | b :: rest =>
    let (c, taken) := readFirst b rest
    c.getD '\ufffd' :: decodeLossy (rest.drop taken)
termination_by s.length
decreasing_by simp only [List.length_drop, List.length_cons]; omega

end LinkPreview.Text.Utf8
