import LinkPreview.Url.Domain.Combining

/-!
# Composed normal form

A character with marks can often be written in several ways. In the normal form the
marks of a character stand in the order of their combining classes, and a character
and a mark that have a composed form are composed. A text is brought into this form
by taking it apart, sorting the marks, and composing again.

## Implementation notes

Only characters that the mapping of domains leaves are taken apart, so every pair of
the table is also composed again.
-/

namespace LinkPreview.Url.Domain

open Text (bisect? rangeValue?)

/-- The combining class of a character; zero for those that marks attach to. -/
def combiningClass (c : Char) : Nat :=
  (rangeValue? combiningClasses c).getD 0

/-! ### Hangul syllables -/

/-- The first syllable. -/
def firstSyllable : Nat := 0xAC00

/-- How many syllables there are. -/
def syllableCount : Nat := 19 * 21 * 28

/-- The pair that a syllable is composed of: a lead and a vowel, or an open syllable
and a tail. -/
def syllableParts? (c : Char) : Option (Char × Char) :=
  let n := c.toNat - firstSyllable
  if firstSyllable ≤ c.toNat ∧ n < syllableCount then
    if n % 28 = 0 then
      some (Char.ofNat (0x1100 + n / 28 / 21), Char.ofNat (0x1161 + n / 28 % 21))
    else some (Char.ofNat (c.toNat - n % 28), Char.ofNat (0x11A7 + n % 28))
  else none

/-- The syllable that a pair composes. -/
def syllable? (a b : Char) : Option Char :=
  let lead := a.toNat - 0x1100
  let vowel := b.toNat - 0x1161
  let n := a.toNat - firstSyllable
  let tail := b.toNat - 0x11A7
  if 0x1100 ≤ a.toNat ∧ lead < 19 ∧ 0x1161 ≤ b.toNat ∧ vowel < 21 then
    some (Char.ofNat (firstSyllable + (lead * 21 + vowel) * 28))
  else if firstSyllable ≤ a.toNat ∧ n < syllableCount ∧ n % 28 = 0 ∧
      0x11A7 < b.toNat ∧ tail < 28 then
    some (Char.ofNat (a.toNat + tail))
  else none

/-! ### Taking apart and composing -/

/-- The pair that a character is composed of. -/
def parts? (c : Char) : Option (Char × Char) :=
  match syllableParts? c with
  | some pair => some pair
  | none =>
    (composedPairs.find? fun (_, _, composed) => composed == c.toNat).map fun (a, b, _) =>
      (Char.ofNat a, Char.ofNat b)

/-- The composed form of a pair. -/
def compose? (a b : Char) : Option Char :=
  match syllable? a b with
  | some c => some c
  | none =>
    (bisect? composedPairs (fun (x, y, _) =>
      (compare x a.toNat).then (compare y b.toNat)) 0 composedPairs.size).map
        fun (_, _, composed) => Char.ofNat composed

/-- Takes a character apart, at most `depth` times. -/
def takeApart : Nat → Char → List Char
  | 0, c => [c]
  | depth + 1, c =>
    match parts? c with
    | some (a, b) => takeApart depth a ++ [b]
    | none => [c]

/-- How often a character can be taken apart, at most. -/
def partsDepth : Nat := 4

/-- Puts a mark behind those marks in front that are not of a higher class. The text
in front is given last character first. -/
def insertMark (c : Char) : List Char → List Char
  | [] => [c]
  | d :: front =>
    if combiningClass d > combiningClass c && combiningClass c != 0 then d :: insertMark c front
    else c :: d :: front

/-- Sorts the marks behind each character by their classes. -/
def sortMarks (s : List Char) : List Char :=
  (s.foldl (fun front c => insertMark c front) []).reverse

/-- A text that is being composed: what is done, last character first, the character
that marks attach to, the marks behind it, last first, and the class of the last. -/
structure Composing where
  done : List Char := []
  base : Option Char := none
  marks : List Char := []
  lastClass : Nat := 0

/-- Closes the character that marks attach to. -/
def Composing.flush (s : Composing) : List Char :=
  s.marks ++ s.base.toList ++ s.done

/-- Takes in a character: it is composed with the base unless a mark of the same or a
higher class stands between them. -/
def Composing.add (s : Composing) (c : Char) : Composing :=
  let k := combiningClass c
  let composed := match s.base with
    | some b => if s.lastClass = 0 || s.lastClass < k then compose? b c else none
    | none => none
  match composed with
  | some x => { s with base := some x }
  | none =>
    if k = 0 then { done := s.flush, base := some c }
    else { s with marks := c :: s.marks, lastClass := k }

/-- The composed normal form of a text. -/
def normalForm (s : List Char) : List Char :=
  let apart := sortMarks (s.flatMap (takeApart partsDepth))
  (apart.foldl Composing.add {}).flush.reverse

end LinkPreview.Url.Domain
