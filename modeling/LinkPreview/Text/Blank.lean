/-!
# Blanks and trimming

The blanks are the characters with the property `White_Space`: six ASCII ones,
and nineteen more up to the ideographic space. The zero width space and the
byte order mark are not among them.
-/

namespace LinkPreview.Text

/-- The characters with the property `White_Space`. -/
def isBlank (c : Char) : Bool :=
  let n := c.toNat
  (0x09 ≤ n && n ≤ 0x0D) || n == 0x20 || n == 0x85 || n == 0xA0 || n == 0x1680 ||
    (0x2000 ≤ n && n ≤ 0x200A) || n == 0x2028 || n == 0x2029 || n == 0x202F ||
    n == 0x205F || n == 0x3000

/-- The five ASCII blanks that separate words in markup: tab, line feed, form
feed, carriage return and space. -/
def isAsciiBlank (c : Char) : Bool :=
  c == '\t' || c == '\n' || c == '\x0c' || c == '\r' || c == ' '

/-- Drops the characters of a class from both ends. -/
def trimBoth (p : Char → Bool) (s : List Char) : List Char :=
  ((s.dropWhile p).reverse.dropWhile p).reverse

/-- Drops the blanks from both ends. -/
def trim (s : List Char) : List Char :=
  trimBoth isBlank s

/-- The pieces between the characters of a class; neighbouring separators
leave an empty piece between them. -/
def splitWhere (p : Char → Bool) : List Char → List (List Char)
  | [] => [[]]
  | c :: s =>
    if p c then [] :: splitWhere p s
    else
      match splitWhere p s with
      | [] => [[c]]
      | piece :: pieces => (c :: piece) :: pieces

/-- The words of a text, separated by ASCII blanks. -/
def asciiWords (s : List Char) : List (List Char) :=
  (splitWhere isAsciiBlank s).filter (!·.isEmpty)

/-- A text in which ASCII capitals became small letters. -/
def asciiLower (s : List Char) : List Char :=
  s.map Char.toLower

/-- Whether two texts agree up to the case of ASCII letters. -/
def eqIgnoringAsciiCase (s t : List Char) : Bool :=
  asciiLower s == asciiLower t

/-- The rest of a text after a given beginning. -/
def dropStart? : List Char → List Char → Option (List Char)
  | [], s => some s
  | _ :: _, [] => none
  | a :: start, c :: s => if a == c then dropStart? start s else none

/-- The rest of a text after a given beginning, in any case of its ASCII letters. -/
def dropStartIgnoringCase? : List Char → List Char → Option (List Char)
  | [], s => some s
  | _ :: _, [] => none
  | a :: start, c :: s =>
    if a.toLower == c.toLower then dropStartIgnoringCase? start s else none

end LinkPreview.Text
