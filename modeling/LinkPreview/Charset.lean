import LinkPreview.Charset.Chinese
import LinkPreview.Charset.Japanese
import LinkPreview.Charset.Korean
import LinkPreview.Charset.Table.SingleByte
import LinkPreview.Charset.Utf16
import LinkPreview.Text.Blank
import LinkPreview.Text.Utf8

/-!
# Charsets

How the bytes of a page become text, as browsers do it. Every sequence of bytes is a
text in every charset; what is no character is replaced.
-/

namespace LinkPreview

/-- A charset. -/
inductive Charset where
  | utf8
  | utf16 (order : Charset.Utf16.Order)
  | singleByte (upper : Charset.Table)
  | gb18030
  | big5
  | eucJp
  | iso2022Jp
  | shiftJis
  | eucKr
  /-- The bytes above ASCII become private characters. -/
  | userDefined
  /-- A charset that browsers do not read, because it could hide markup. -/
  | refused

namespace Charset

/-- The text that bytes are. -/
def decode (charset : Charset) (s : List UInt8) : List Char :=
  match charset with
  | utf8 => Text.Utf8.decodeLossy s
  | utf16 order => readAll (Utf16.readFirst order) s
  | singleByte upper =>
    s.map fun b => if b < 0x80 then ascii b else (upper.get? (b.toNat - 0x80)).getD replacement
  | gb18030 => readAll Gb18030.readFirst s
  | big5 => readAll Big5.readFirst s
  | eucJp => readAll EucJp.readFirst s
  | iso2022Jp => Iso2022Jp.read .ascii false s
  | shiftJis => readAll ShiftJis.readFirst s
  | eucKr => readAll EucKr.readFirst s
  | userDefined =>
    s.map fun b => if b < 0x80 then ascii b else Char.ofNat (0xF780 + (b.toNat - 0x80))
  | refused => if s.isEmpty then [] else [replacement]

/-- The charsets and the labels by which they are known. -/
def labels : List (List String × Charset) :=
  [(["unicode-1-1-utf-8", "unicode11utf8", "unicode20utf8", "utf8", "utf-8",
      "x-unicode20utf8"], .utf8),
    (["866", "cp866", "csibm866", "ibm866"], .singleByte Table.ibm866),
    (["csisolatin2", "iso-8859-2", "iso-ir-101", "iso8859-2", "iso88592", "iso_8859-2",
      "iso_8859-2:1987", "l2", "latin2"], .singleByte Table.iso8859part2),
    (["csisolatin3", "iso-8859-3", "iso-ir-109", "iso8859-3", "iso88593", "iso_8859-3",
      "iso_8859-3:1988", "l3", "latin3"], .singleByte Table.iso8859part3),
    (["csisolatin4", "iso-8859-4", "iso-ir-110", "iso8859-4", "iso88594", "iso_8859-4",
      "iso_8859-4:1988", "l4", "latin4"], .singleByte Table.iso8859part4),
    (["csisolatincyrillic", "cyrillic", "iso-8859-5", "iso-ir-144", "iso8859-5", "iso88595",
      "iso_8859-5", "iso_8859-5:1988"], .singleByte Table.iso8859part5),
    (["arabic", "asmo-708", "csiso88596e", "csiso88596i", "csisolatinarabic", "ecma-114",
      "iso-8859-6", "iso-8859-6-e", "iso-8859-6-i", "iso-ir-127", "iso8859-6", "iso88596",
      "iso_8859-6", "iso_8859-6:1987"], .singleByte Table.iso8859part6),
    (["csisolatingreek", "ecma-118", "elot_928", "greek", "greek8", "iso-8859-7",
      "iso-ir-126", "iso8859-7", "iso88597", "iso_8859-7", "iso_8859-7:1987", "sun_eu_greek"],
      .singleByte Table.iso8859part7),
    (["csiso88598e", "csisolatinhebrew", "hebrew", "iso-8859-8", "iso-8859-8-e", "iso-ir-138",
      "iso8859-8", "iso88598", "iso_8859-8", "iso_8859-8:1988", "visual", "csiso88598i",
      "iso-8859-8-i", "logical"], .singleByte Table.iso8859part8),
    (["csisolatin6", "iso-8859-10", "iso-ir-157", "iso8859-10", "iso885910", "l6", "latin6"],
      .singleByte Table.iso8859part10),
    (["iso-8859-13", "iso8859-13", "iso885913"], .singleByte Table.iso8859part13),
    (["iso-8859-14", "iso8859-14", "iso885914"], .singleByte Table.iso8859part14),
    (["csisolatin9", "iso-8859-15", "iso8859-15", "iso885915", "iso_8859-15", "l9"],
      .singleByte Table.iso8859part15),
    (["iso-8859-16"], .singleByte Table.iso8859part16),
    (["cskoi8r", "koi", "koi8", "koi8-r", "koi8_r"], .singleByte Table.koi8r),
    (["koi8-ru", "koi8-u"], .singleByte Table.koi8u),
    (["csmacintosh", "mac", "macintosh", "x-mac-roman"], .singleByte Table.macintosh),
    (["dos-874", "iso-8859-11", "iso8859-11", "iso885911", "tis-620", "windows-874"],
      .singleByte Table.windows874),
    (["cp1250", "windows-1250", "x-cp1250"], .singleByte Table.windows1250),
    (["cp1251", "windows-1251", "x-cp1251"], .singleByte Table.windows1251),
    (["ansi_x3.4-1968", "ascii", "cp1252", "cp819", "csisolatin1", "ibm819", "iso-8859-1",
      "iso-ir-100", "iso8859-1", "iso88591", "iso_8859-1", "iso_8859-1:1987", "l1", "latin1",
      "us-ascii", "windows-1252", "x-cp1252"], .singleByte Table.windows1252),
    (["cp1253", "windows-1253", "x-cp1253"], .singleByte Table.windows1253),
    (["cp1254", "csisolatin5", "iso-8859-9", "iso-ir-148", "iso8859-9", "iso88599",
      "iso_8859-9", "iso_8859-9:1989", "l5", "latin5", "windows-1254", "x-cp1254"],
      .singleByte Table.windows1254),
    (["cp1255", "windows-1255", "x-cp1255"], .singleByte Table.windows1255),
    (["cp1256", "windows-1256", "x-cp1256"], .singleByte Table.windows1256),
    (["cp1257", "windows-1257", "x-cp1257"], .singleByte Table.windows1257),
    (["cp1258", "windows-1258", "x-cp1258"], .singleByte Table.windows1258),
    (["x-mac-cyrillic", "x-mac-ukrainian"], .singleByte Table.macCyrillic),
    (["chinese", "csgb2312", "csiso58gb231280", "gb2312", "gb_2312", "gb_2312-80", "gbk",
      "iso-ir-58", "x-gbk", "gb18030"], .gb18030),
    (["big5", "big5-hkscs", "cn-big5", "csbig5", "x-x-big5"], .big5),
    (["cseucpkdfmtjapanese", "euc-jp", "x-euc-jp"], .eucJp),
    (["csiso2022jp", "iso-2022-jp"], .iso2022Jp),
    (["csshiftjis", "ms932", "ms_kanji", "shift-jis", "shift_jis", "sjis", "windows-31j",
      "x-sjis"], .shiftJis),
    (["cseuckr", "csksc56011987", "euc-kr", "iso-ir-149", "korean", "ks_c_5601-1987",
      "ks_c_5601-1989", "ksc5601", "ksc_5601", "windows-949"], .eucKr),
    (["csiso2022kr", "hz-gb-2312", "iso-2022-cn", "iso-2022-cn-ext", "iso-2022-kr",
      "replacement"], .refused),
    (["unicodefffe", "utf-16be"], .utf16 .big),
    (["csunicode", "iso-10646-ucs-2", "ucs-2", "unicode", "unicodefeff", "utf-16le",
      "utf-16"], .utf16 .little),
    (["x-user-defined"], .userDefined)]

/-- The charset that a label names, in any case of its letters and with blanks around
it. -/
def ofLabel? (label : List Char) : Option Charset :=
  let label := String.ofList (Text.asciiLower (Text.trimBoth Text.isAsciiBlank label))
  (labels.find? (·.1.contains label)).map (·.2)

/-- Takes a byte order mark off a text: the charset that it tells, and the rest. -/
def mark? : List UInt8 → Option (Charset × List UInt8)
  | 0xEF :: 0xBB :: 0xBF :: rest => some (utf8, rest)
  | 0xFF :: 0xFE :: rest => some (utf16 .little, rest)
  | 0xFE :: 0xFF :: rest => some (utf16 .big, rest)
  | _ => none

/-- The text of a page. A byte order mark counts more than the charset that is given. -/
def decodePage (given : Charset) (s : List UInt8) : List Char :=
  let (charset, s) := (mark? s).getD (given, s)
  charset.decode s

end Charset

end LinkPreview
