import LinkPreview.Text.Numeral

/-!
# Labels in letters, digits and hyphens

A label of any characters is written with ASCII characters as follows: first its
ASCII characters, then, after a hyphen, the places and code points of the others as
one series of numbers. A number is written in base 36 with the least significant
digit first, and digits at or above a threshold say that more follow; the
thresholds adapt to the size of the numbers.
-/

namespace LinkPreview.Url.Punycode

/-- The digit of a value below 36: letters first. -/
def digit (d : Nat) : Char :=
  if d < 26 then Char.ofNat ('a'.toNat + d) else Char.ofNat ('0'.toNat + (d - 26))

/-- The value of a digit, in either case of its letters. -/
def digitValue? (c : Char) : Option Nat :=
  if 'a' ≤ c ∧ c ≤ 'z' then some (c.toNat - 'a'.toNat)
  else if 'A' ≤ c ∧ c ≤ 'Z' then some (c.toNat - 'A'.toNat)
  else if '0' ≤ c ∧ c ≤ '9' then some (c.toNat - '0'.toNat + 26)
  else none

/-- The threshold of the digit whose weight began at `k`. -/
def threshold (bias k : Nat) : Nat :=
  max 1 (min 26 (k - bias))

theorem threshold_pos (bias k : Nat) : 1 ≤ threshold bias k := by
  unfold threshold; omega

/-- Divides by 35 until at most 455 is left, and counts 36 for each time. -/
def damp (delta k : Nat) : Nat × Nat :=
  if 455 < delta then damp (delta / 35) (k + 36) else (delta, k)
termination_by delta
decreasing_by omega

/-- The bias after a number `delta`, of which `count` characters are known. -/
def adapt (delta count : Nat) (isFirst : Bool) : Nat :=
  let scaled := if isFirst then delta / 700 else delta / 2
  let (rest, k) := damp (scaled + scaled / count) 0
  k + 36 * rest / (rest + 38)

/-- The digits of a number. -/
def encodeNumber (bias k n : Nat) : List Char :=
  let t := threshold bias k
  if n < t then [digit n]
  else digit (t + (n - t) % (36 - t)) :: encodeNumber bias (k + 36) ((n - t) / (36 - t))
termination_by n
decreasing_by
  have h₁ := threshold_pos bias k
  have h₂ : (n - threshold bias k) / (36 - threshold bias k) ≤ n - threshold bias k :=
    Nat.div_le_self _ _
  omega

/-- The state of the encoder: what is written, the number that is being counted, the
bias, and how many characters are written. -/
structure Encoder where
  written : List Char
  delta : Nat
  bias : Nat
  count : Nat

/-- Passes a character of the label while the characters with code point `code` are
written. `basic` counts the ASCII characters. -/
def Encoder.pass (basic code : Nat) (e : Encoder) (c : Char) : Encoder :=
  if c.toNat < code then { e with delta := e.delta + 1 }
  else if c.toNat = code then
    { written := e.written ++ encodeNumber e.bias 36 e.delta
      delta := 0
      bias := adapt e.delta (e.count + 1) (e.count == basic)
      count := e.count + 1 }
  else e

/-- Writes the characters with the given code points, which increase from `start` on. -/
def Encoder.writeAll (label : List Char) (basic : Nat) :
    List Nat → Nat → Encoder → Encoder
  | [], _, e => e
  | code :: codes, start, e =>
    let e := { e with delta := e.delta + (code - start) * (e.count + 1) }
    let e := label.foldl (Encoder.pass basic code) e
    writeAll label basic codes (code + 1) { e with delta := e.delta + 1 }

/-- Puts a number into an increasing list, unless it is there. -/
def insertSorted (n : Nat) : List Nat → List Nat
  | [] => [n]
  | m :: rest =>
    if n < m then n :: m :: rest else if n = m then m :: rest else m :: insertSorted n rest

/-- The ASCII form of a label, without the mark in front. -/
def encode (label : List Char) : List Char :=
  let basic := label.filter (·.toNat < 128)
  let codes := (label.filter (128 ≤ ·.toNat)).foldr (fun c => insertSorted c.toNat) []
  let start : Encoder := ⟨[], 0, 72, basic.length⟩
  let rest := (Encoder.writeAll label basic.length codes 128 start).written
  basic ++ (if basic.isEmpty then [] else ['-']) ++ rest

/-- Reads a number: its value added to `i`, and the digits behind it. -/
def decodeNumber (bias : Nat) : Nat → Nat → Nat → List Char → Option (Nat × List Char)
  | _, _, _, [] => none
  | k, weight, i, c :: s => do
    let d ← digitValue? c
    let i := i + d * weight
    let t := threshold bias k
    if d < t then return (i, s) else decodeNumber bias (k + 36) (weight * (36 - t)) i s

theorem length_decodeNumber_lt {bias k weight i : Nat} {s : List Char} {r : Nat × List Char}
    (h : decodeNumber bias k weight i s = some r) : r.2.length < s.length := by
  induction s generalizing k weight i with
  | nil => simp [decodeNumber] at h
  | cons c s ih =>
    unfold decodeNumber at h
    cases hd : digitValue? c with
    | none => simp [hd] at h
    | some d =>
      simp only [hd, Option.bind_eq_bind, Option.bind_some] at h
      split at h
      · simp only [Option.pure_def, Option.some.injEq] at h
        subst h
        simp
      · have := ih h
        simp only [List.length_cons]
        omega

/-- Reads the places and code points of the characters that are not ASCII, and puts
them into the label. -/
def decodeAll (label : List Char) (i code bias : Nat) (s : List Char) : Option (List Char) :=
  if s.isEmpty then some label
  else
    match h : decodeNumber bias 36 1 i s with
    | none => none
    | some (next, rest) =>
      have := length_decodeNumber_lt h
      let count := label.length + 1
      let code := code + next / count
      let place := next % count
      if code.isValidChar then
        decodeAll (label.take place ++ Char.ofNat code :: label.drop place) (place + 1)
          code (adapt (next - i) count (i == 0)) rest
      else none
termination_by s.length

/-- The label that has a given ASCII form, without the mark in front. -/
def decode? (s : List Char) : Option (List Char) :=
  let rest := (s.reverse.takeWhile (· != '-')).reverse
  let basic := s.take (s.length - rest.length - 1)
  if s.any (128 ≤ ·.toNat) then none else decodeAll basic 0 128 72 rest

end LinkPreview.Url.Punycode
