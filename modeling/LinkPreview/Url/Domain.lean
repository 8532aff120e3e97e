import LinkPreview.Text.Blank
import LinkPreview.Url.Domain.Direction
import LinkPreview.Url.Domain.Joining
import LinkPreview.Url.Domain.Mapping
import LinkPreview.Url.Domain.Normal
import LinkPreview.Url.Punycode

/-!
# Domains

A domain may be written in any script. It is looked up in its ASCII form, which
`Domain.toAscii?` gives: the characters are mapped and normalized, every label is
checked, and a label that is not ASCII is replaced by an encoded one. Neither the
lengths of the labels nor the places of hyphens are restricted.
-/

namespace LinkPreview.Url.Domain

open Text (bisect? rangeValue?)

/-- The image of a character under the mapping; nothing for one that no domain may
hold. -/
def mapChar? (c : Char) : Option (List Char) :=
  let n := c.toNat
  if dropped.contains c then some []
  else if refused.contains c then none
  else
    let inSeries (s : MappedSeries) : Bool :=
      s.first ≤ n && n ≤ s.last && (n - s.first) % s.step == 0
    match mappedSeries.find? inSeries with
    | some s => some [Char.ofNat (n + s.distance).toNat]
    | none =>
      match bisect? mappedTexts (fun (code, _) => compare code n) 0 mappedTexts.size with
      | some (_, text) => some text.toList
      | none => some [c]

/-- Maps the characters of a text. -/
def mapAll? (s : List Char) : Option (List Char) :=
  (s.mapM mapChar?).map List.flatten

/-! ### What a label must satisfy -/

/-- On which sides a character joins. -/
def joining (c : Char) : Joining :=
  (rangeValue? joiningRanges c).getD .none

/-- In which direction a character is written. -/
def direction (c : Char) : Direction :=
  (rangeValue? directionRanges c).getD .left

/-- Whether the nearest character that is not transparent joins as `p` says. -/
def nearestJoins (p : Joining → Bool) (s : List Char) : Bool :=
  match s.dropWhile (joining · == .transparent) with
  | [] => false
  | c :: _ => p (joining c)

/-- The class of the marks that suppress a vowel. -/
def viramaClass : Nat := 9

/-- The joiners of width zero stand only behind a mark that suppresses a vowel; the
one that separates also stands between two letters that would join. The text in front
is given last character first. -/
def joinersInPlace : List Char → List Char → Bool
  | _, [] => true
  | front, c :: rest =>
    let behindVirama := (front.head?.map combiningClass) == some viramaClass
    let here :=
      if c == '\u200d' then behindVirama
      else if c == '\u200c' then
        behindVirama ||
          (nearestJoins (fun j => j == .left || j == .dual) front &&
            nearestJoins (fun j => j == .right || j == .dual) rest)
      else true
    here && joinersInPlace (c :: front) rest

/-- The rule for the labels of a domain with characters that are written from right to
left: the first character decides the direction, only characters that go with it may
follow, and the last one that is no mark must be a letter of that direction or a
number. -/
def directionsAgree (label : List Char) : Bool :=
  let directions := label.map direction
  let last := (directions.reverse.dropWhile (· == .mark)).head?
  match directions with
  | [] => true
  | .right :: _ =>
    !directions.contains .left &&
      (last == some .right || last == some .europeanNumber || last == some .arabicNumber) &&
      !(directions.contains .europeanNumber && directions.contains .arabicNumber)
  | .left :: _ =>
    !directions.contains .right && !directions.contains .arabicNumber &&
      (last == some .left || last == some .europeanNumber)
  | _ => false

/-- Whether a character is written from right to left, or is a number there. -/
def isRightward (c : Char) : Bool :=
  direction c == .right || direction c == .arabicNumber

/-- Whether a decoded label could have been written as it is. -/
def isPlain (label : List Char) : Bool :=
  mapAll? label == some label && normalForm label == label

/-- Whether a label is in order, the directions aside. -/
def isLabel (label : List Char) : Bool :=
  !(label.head?.map marks.contains).getD false && joinersInPlace [] label

/-- The mark in front of an encoded label. -/
def encodedMark : List Char := "xn--".toList

/-- The most characters of a label that are encoded. -/
def encodeLimit : Nat := 1000

/-- The most characters of a label that are decoded. -/
def decodeLimit : Nat := 2000

/-- Reads a label: an encoded one is decoded. -/
def readLabel? (label : List Char) : Option (List Char) :=
  match Text.dropStart? encodedMark label with
  | none => if isLabel label then some label else none
  | some encoded => do
    if encoded.length > decodeLimit then none
    let decoded ← Punycode.decode? encoded
    if decoded.any (128 ≤ ·.toNat) && isPlain decoded && !decoded.contains '.' &&
        isLabel decoded then
      some decoded
    else none

/-- Writes a label in ASCII. -/
def writeLabel? (label : List Char) : Option (List Char) :=
  if label.all (·.toNat < 128) then some label
  else if label.length > encodeLimit then none
  else some (encodedMark ++ Punycode.encode label)

/-- The ASCII characters that no domain may hold. -/
def isForbidden (c : Char) : Bool :=
  c.toNat ≤ 0x20 || c.toNat == 0x7F || "%#/:<>?@[\\]^|".toList.contains c

/-- The ASCII form of a domain, if it has one. -/
def toAscii? (domain : List Char) : Option (List Char) := do
  let mapped ← mapAll? domain
  let labels ← (Text.splitWhere (· == '.') (normalForm mapped)).mapM readLabel?
  if labels.any (·.any isRightward) && !labels.all directionsAgree then none
  let written ← labels.mapM writeLabel?
  let ascii := ['.'].intercalate written
  if ascii.any isForbidden then none
  return ascii

end LinkPreview.Url.Domain
