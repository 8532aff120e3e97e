import LinkPreview.Charset.Reading
import LinkPreview.Charset.Table.EucKr

/-!
# The Korean charset

EUC-KR has characters of one and two bytes.
-/

namespace LinkPreview.Charset.EucKr

/-- The character of two bytes. -/
def double? (lead second : UInt8) : Option Char :=
  if isBetween 0x41 0xFE second then
    Table.eucKr.get? ((lead.toNat - 0x81) * 190 + (second.toNat - 0x41))
  else none

/-- Reads the first character. -/
def readFirst (b : UInt8) (rest : List UInt8) : Reading :=
  if b < 0x80 then .single (ascii b)
  else if isBetween 0x81 0xFE b then
    .ofSecond (fun second => (double? b second).map ([·])) rest
  else .broken

end LinkPreview.Charset.EucKr
