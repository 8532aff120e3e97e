import LinkPreview.Html.CharacterName
import LinkPreview.Text.Numeral

/-!
# Character references

A reference names a character after an ampersand, by its number or by a name. In
running text a few old names are understood without their semicolon; in the value
of an attribute this holds only if no letter, digit or equals sign follows, so
that the queries of addresses survive. An ampersand that starts no reference
stands for itself.
-/

namespace LinkPreview.Html

/-- Where a reference stands. -/
inductive Place where
  | text
  | attributeValue
  deriving DecidableEq, Repr

namespace Reference

/-- The characters that the numbers from 0x80 to 0x9F stand for; the number
itself where no character is given. -/
def windowsCharacters : List Char :=
  ['€', '\x81', '‚', 'ƒ', '„', '…', '†', '‡', 'ˆ', '‰', 'Š', '‹', 'Œ', '\x8d', 'Ž', '\x8f',
    '\x90', '‘', '’', '“', '”', '•', '–', '—', '˜', '™', 'š', '›', 'œ', '\x9d', 'ž', 'Ÿ']

/-- The character that a number stands for. Zero, surrogates and numbers that
are too large stand for the replacement character. -/
def numbered (n : Nat) : Char :=
  if n = 0 then '\ufffd'
  else if 0x80 ≤ n ∧ n ≤ 0x9F then windowsCharacters.getD (n - 0x80) '\ufffd'
  else if n.isValidChar then Char.ofNat n
  else '\ufffd'

/-- Counts the semicolon that may close a reference. -/
def closing (s : List Char) : Nat :=
  if s.head? = some ';' then 1 else 0

/-- Reads the digits of a numbered reference: its character, and how many
characters it takes. -/
def readNumber? (base : Nat) (s : List Char) : Option (List Char × Nat) :=
  let digits := s.takeWhile fun c => (Text.digitBelow? base c).isSome
  match Text.readNumeral? base digits with
  | none => none
  | some n => some ([numbered n], digits.length + closing (s.drop digits.length))

/-- The longest name that may stand without semicolon and that a run of letters
and digits begins with. -/
def longestBareName? (run : List Char) : Option String :=
  bareNames.foldl (fun best name =>
    if name.toList.isPrefixOf run && (best.getD "").length < name.length then some name
    else best) none

/-- Whether a name without semicolon counts as a reference before this text. -/
def endsBareName (place : Place) (after : List Char) : Bool :=
  match place, after.head? with
  | .attributeValue, some c => !(c == '=' || c.isAlphanum)
  | _, _ => true

/-- Reads a name: the text that it stands for, and how many characters it takes. -/
def readName? (place : Place) (s : List Char) : Option (List Char × Nat) :=
  let run := s.takeWhile Char.isAlphanum
  let closed := if closing (s.drop run.length) = 1 then namedText? (String.ofList run) else none
  match closed with
  | some text => some (text.toList, run.length + 1)
  | none =>
    match longestBareName? run with
    | none => none
    | some name =>
      if endsBareName place (s.drop name.length) then
        (namedText? name).map fun text => (text.toList, name.length)
      else none

/-- Reads what follows an ampersand, if it is a reference. -/
def read? (place : Place) (s : List Char) : Option (List Char × Nat) :=
  match s with
  | '#' :: 'x' :: digits => (readNumber? 16 digits).map fun (text, n) => (text, n + 2)
  | '#' :: 'X' :: digits => (readNumber? 16 digits).map fun (text, n) => (text, n + 2)
  | '#' :: digits => (readNumber? 10 digits).map fun (text, n) => (text, n + 1)
  | _ => readName? place s

/-- Replaces the references of a text by what they stand for. -/
def decode (place : Place) : List Char → List Char
  | [] => []
  | c :: s =>
    if c = '&' then
      match read? place s with
      | some (text, n) => text ++ decode place (s.drop n)
      | none => c :: decode place s
    else c :: decode place s
termination_by s => s.length
decreasing_by all_goals simp; try omega

end Reference

end LinkPreview.Html
