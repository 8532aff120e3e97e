/-!
# Reading bytes character by character

Most charsets are read from left to right without memory: the first byte and those
behind it give a character, or nothing that is one, and the rest is read in the same
way. What is no character becomes a replacement character. A byte of ASCII behind the
first is never part of what is replaced, so that broken text cannot hide markup.
-/

namespace LinkPreview.Charset

/-- The character that stands for what is none. -/
def replacement : Char := '\ufffd'

/-- What the first bytes of a text are: characters, and how many bytes behind the first
one belong to them. -/
structure Reading where
  characters : List Char
  following : Nat

namespace Reading

/-- A character of one byte. -/
def single (c : Char) : Reading := ⟨[c], 0⟩

/-- No character. -/
def broken : Reading := ⟨[replacement], 0⟩

/-- No character, up to and with a last byte unless that is ASCII. -/
def brokenAt (last : UInt8) (before : Nat) : Reading :=
  ⟨[replacement], if last < 0x80 then before else before + 1⟩

/-- The character of a first and a second byte, where the second gives it. -/
def ofSecond (characters : UInt8 → Option (List Char)) : List UInt8 → Reading
  | [] => broken
  | second :: _ =>
    match characters second with
    | some cs => ⟨cs, 1⟩
    | none => brokenAt second 0

end Reading

/-- Reads a text, given how its first bytes are read. -/
def readAll (first : UInt8 → List UInt8 → Reading) (s : List UInt8) : List Char :=
  match s with
  | [] => []
  | b :: rest =>
    let r := first b rest
    r.characters ++ readAll first (rest.drop r.following)
termination_by s.length
decreasing_by simp only [List.length_drop, List.length_cons]; omega

/-- Whether a byte is from `low` to `high`. -/
def isBetween (low high : Nat) (b : UInt8) : Bool :=
  low ≤ b.toNat && b.toNat ≤ high

/-- The character of an ASCII byte. -/
def ascii (b : UInt8) : Char :=
  Char.ofNat b.toNat

end LinkPreview.Charset
