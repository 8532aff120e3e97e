import LinkPreview.Charset.Reading
import LinkPreview.Charset.Table.Big5
import LinkPreview.Charset.Table.Gb18030

/-!
# Chinese charsets

GB 18030 has characters of one, two and four bytes, Big5 of one and two. GBK is the
part of GB 18030 without four bytes, and is read in the same way.
-/

namespace LinkPreview.Charset

namespace Gb18030

/-- The character of two bytes. -/
def double? (lead second : UInt8) : Option Char :=
  if isBetween 0x40 0x7E second || isBetween 0x80 0xFE second then
    let offset := if second < 0x7F then 0x40 else 0x41
    Table.gb18030.get? ((lead.toNat - 0x81) * 190 + (second.toNat - offset))
  else none

/-- The character with a number among those of four bytes. One stands outside the
series. -/
def numbered? (n : Nat) : Option Char :=
  if (39419 < n && n < 189000) || 1237575 < n then none
  else if n = 7457 then some '\ue7c7'
  else
    ((Table.gb18030Series.takeWhile (·.1 ≤ n)).getLast?).map fun (start, code) =>
      Char.ofNat (code + (n - start))

/-- Whether a byte is a digit. -/
def isDigit (b : UInt8) : Bool :=
  isBetween 0x30 0x39 b

/-- Whether a byte begins a character of several bytes. -/
def isLead (b : UInt8) : Bool :=
  isBetween 0x81 0xFE b

/-- The character of four bytes. -/
def quadruple? (b₁ b₂ b₃ b₄ : UInt8) : Option Char :=
  numbered? ((((b₁.toNat - 0x81) * 10 + (b₂.toNat - 0x30)) * 126 + (b₃.toNat - 0x81)) * 10
    + (b₄.toNat - 0x30))

/-- Reads a character behind a first byte and a digit. Text that ends within it is
replaced as a whole. -/
def readQuadruple (b₁ b₂ : UInt8) : List UInt8 → Reading
  | [] => ⟨[replacement], 1⟩
  | [b₃] => if isLead b₃ then ⟨[replacement], 2⟩ else .broken
  | b₃ :: b₄ :: _ =>
    if isLead b₃ && isDigit b₄ then
      ⟨[(quadruple? b₁ b₂ b₃ b₄).getD replacement], 3⟩
    else .broken

/-- Reads the first character. -/
def readFirst (b : UInt8) (rest : List UInt8) : Reading :=
  if b < 0x80 then .single (ascii b)
  else if b = 0x80 then .single '€'
  else if b = 0xFF then .broken
  else
    match rest with
    | [] => .broken
    | second :: rest =>
      if isDigit second then readQuadruple b second rest
      else .ofSecond (fun second => (double? b second).map ([·])) (second :: rest)

end Gb18030

namespace Big5

/-- The characters of two bytes; in four places a letter and a mark above it. -/
def double? (lead second : UInt8) : Option (List Char) :=
  if isBetween 0x40 0x7E second || isBetween 0xA1 0xFE second then
    let offset := if second < 0x7F then 0x40 else 0x62
    match (lead.toNat - 0x81) * 157 + (second.toNat - offset) with
    | 1133 => some ['\u00ca', '\u0304']
    | 1135 => some ['\u00ca', '\u030c']
    | 1164 => some ['\u00ea', '\u0304']
    | 1166 => some ['\u00ea', '\u030c']
    | place => (Table.big5.get? place).map ([·])
  else none

/-- Reads the first character. -/
def readFirst (b : UInt8) (rest : List UInt8) : Reading :=
  if b < 0x80 then .single (ascii b)
  else if isBetween 0x81 0xFE b then .ofSecond (double? b) rest
  else .broken

end Big5

end LinkPreview.Charset
