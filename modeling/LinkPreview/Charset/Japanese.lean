import LinkPreview.Charset.Reading
import LinkPreview.Charset.Table.JisX0208
import LinkPreview.Charset.Table.JisX0212

/-!
# Japanese charsets

EUC-JP and Shift_JIS write the characters of JIS X 0208 with two bytes each.
ISO-2022-JP writes them with bytes of ASCII, between escape sequences that say what the
bytes stand for.
-/

namespace LinkPreview.Charset

/-- A katakana letter of half width. -/
def katakana (n : Nat) : Char :=
  Char.ofNat (0xFF61 + n)

namespace EucJp

/-- The character of two bytes in a table of 94 rows. -/
def double? (table : Table) (lead second : UInt8) : Option Char :=
  if isBetween 0xA1 0xFE lead && isBetween 0xA1 0xFE second then
    table.get? ((lead.toNat - 0xA1) * 94 + (second.toNat - 0xA1))
  else none

/-- Reads a character behind the byte that announces JIS X 0212. -/
def readTriple : List UInt8 → Reading
  | [] => .broken
  | [second] => if isBetween 0xA1 0xFE second then ⟨[replacement], 1⟩ else .brokenAt second 0
  | second :: third :: _ =>
    if isBetween 0xA1 0xFE second then
      match double? Table.jisX0212 second third with
      | some c => ⟨[c], 2⟩
      | none => .brokenAt third 1
    else .brokenAt second 0

/-- Reads the first character. -/
def readFirst (b : UInt8) (rest : List UInt8) : Reading :=
  if b < 0x80 then .single (ascii b)
  else if b = 0x8E then
    .ofSecond (fun second =>
      if isBetween 0xA1 0xDF second then some [katakana (second.toNat - 0xA1)] else none) rest
  else if b = 0x8F then readTriple rest
  else if isBetween 0xA1 0xFE b then
    .ofSecond (fun second => (double? Table.jisX0208 b second).map ([·])) rest
  else .broken

end EucJp

namespace ShiftJis

/-- The character of two bytes. Rows that the standard leaves to users become private
characters. -/
def double? (lead second : UInt8) : Option Char :=
  if isBetween 0x40 0x7E second || isBetween 0x80 0xFC second then
    let offset := if second < 0x7F then 0x40 else 0x41
    let leadOffset := if lead < 0xA0 then 0x81 else 0xC1
    let place := (lead.toNat - leadOffset) * 188 + (second.toNat - offset)
    if 8836 ≤ place && place ≤ 10715 then some (Char.ofNat (0xE000 + (place - 8836)))
    else Table.jisX0208.get? place
  else none

/-- Reads the first character. -/
def readFirst (b : UInt8) (rest : List UInt8) : Reading :=
  if b ≤ 0x80 then .single (ascii b)
  else if isBetween 0xA1 0xDF b then .single (katakana (b.toNat - 0xA1))
  else if isBetween 0x81 0x9F b || isBetween 0xE0 0xFC b then
    .ofSecond (fun second => (double? b second).map ([·])) rest
  else .broken

end ShiftJis

namespace Iso2022Jp

/-- What bytes stand for. -/
inductive Meaning where
  | ascii
  | roman
  | katakana
  | kanji
  deriving DecidableEq, Repr

/-- The escape sequence at the beginning of what follows an escape. -/
def escape? : List UInt8 → Option Meaning
  | 0x28 :: 0x42 :: _ => some .ascii
  | 0x28 :: 0x4A :: _ => some .roman
  | 0x28 :: 0x49 :: _ => some .katakana
  | 0x24 :: 0x40 :: _ => some .kanji
  | 0x24 :: 0x42 :: _ => some .kanji
  | _ => none

/-- The character of a byte in a charset of one byte. -/
def single? (m : Meaning) (b : UInt8) : Option Char :=
  match m with
  | .katakana =>
    if isBetween 0x21 0x5F b then some (Charset.katakana (b.toNat - 0x21)) else none
  | .kanji => none
  | _ =>
    if b < 0x80 && b != 0x0E && b != 0x0F then
      if m = .roman && b = 0x5C then some '¥'
      else if m = .roman && b = 0x7E then some '‾'
      else some (Charset.ascii b)
    else none

/-- The character of two bytes. -/
def double? (lead second : UInt8) : Option Char :=
  Table.jisX0208.get? ((lead.toNat - 0x21) * 94 + (second.toNat - 0x21))

/-- Reads a first byte that is no escape. -/
def readFirst (m : Meaning) (b : UInt8) (rest : List UInt8) : Reading :=
  if m = .kanji then
    match rest with
    | [] => .broken
    | second :: _ =>
      if isBetween 0x21 0x7E b then
        if second = 0x1B then .broken
        else if isBetween 0x21 0x7E second then
          ⟨[(double? b second).getD replacement], 1⟩
        else ⟨[replacement], 1⟩
      else .broken
  else .single ((single? m b).getD replacement)

/-- Reads a text. An escape sequence right behind another one is an error, since the
first one would have said nothing. -/
def read (m : Meaning) (isFresh : Bool) (s : List UInt8) : List Char :=
  match s with
  | [] => []
  | 0x1B :: rest =>
    match escape? rest with
    | some m' => (if isFresh then [replacement] else []) ++ read m' true (rest.drop 2)
    | none => replacement :: read m false rest
  | b :: rest =>
    let r := readFirst m b rest
    r.characters ++ read m false (rest.drop r.following)
termination_by s.length
decreasing_by all_goals simp; try omega

end Iso2022Jp

end LinkPreview.Charset
