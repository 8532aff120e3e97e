import LinkPreview.Proofs.Text.Numeral
import LinkPreview.Proofs.Text.Utf8
import LinkPreview.Url.Percent

/-!
# Percent decoding

A byte that is written as a percent sign and two digits is read back, whatever follows it, and
a character of ASCII that stands for itself is its own byte, unless it is the percent sign.
-/

namespace LinkPreview.Url

/-- A hexadecimal digit as it is written in an address. -/
def upperDigit (d : Nat) : Char :=
  (Nat.digitChar d).toUpper

theorem percentByte_eq (b : UInt8) :
    percentByte b = ['%', upperDigit (b.toNat / 16), upperDigit (b.toNat % 16)] := by
  have hb : b.toNat < 256 := UInt8.toNat_lt b
  rw [percentByte, Nat.toDigits_eq_if (by decide)]
  split
  · rename_i hlt
    rw [Nat.div_eq_of_lt hlt, Nat.mod_eq_of_lt hlt]
    rfl
  · rename_i hge
    rw [Nat.toDigits_eq_if (by decide), if_pos (by omega)]
    rfl

theorem digitValue?_upperDigit {d : Nat} (hd : d < 16) :
    Text.digitValue? (upperDigit d) = some d := by
  have hall : ∀ d < 16, Text.digitValue? (upperDigit d) = some d := by decide
  exact hall d hd

theorem isAlphanum_upperDigit {d : Nat} (hd : d < 16) : (upperDigit d).isAlphanum = true := by
  have hall : ∀ d < 16, (upperDigit d).isAlphanum = true := by decide
  exact hall d hd

theorem percentDecode_cons {b : UInt8} (hb : b ≠ 0x25) (s : List UInt8) :
    percentDecode (b :: s) = b :: percentDecode s := by
  rw [percentDecode]
  rintro a c s rfl
  exact absurd rfl hb

/-- A character of ASCII that stands for itself is its own byte. -/
theorem percentDecode_ascii {c : Char} (hc : c.toNat < 0x80) (hp : c ≠ '%') (s : List UInt8) :
    percentDecode (Text.Utf8.encode [c] ++ s) = Text.Utf8.encode [c] ++ percentDecode s := by
  have hbyte : Text.Utf8.encode [c] = [UInt8.ofNat c.toNat] := by
    simp [Text.Utf8.encode, Text.Utf8.encodeChar_of_ascii hc]
  have hne : UInt8.ofNat c.toNat ≠ 0x25 := by
    intro he
    apply hp
    have hn := congrArg UInt8.toNat he
    rw [Text.Utf8.toNat_of_ascii hc] at hn
    exact Char.toNat_inj.mp hn
  rw [hbyte]
  exact percentDecode_cons hne s

/-- A byte that was written is read back. -/
theorem percentDecode_percentByte (b : UInt8) (s : List UInt8) :
    percentDecode (Text.Utf8.encode (percentByte b) ++ s) = b :: percentDecode s := by
  have hb : b.toNat < 256 := UInt8.toNat_lt b
  have hhigh : b.toNat / 16 < 16 := by omega
  have hlow : b.toNat % 16 < 16 := by omega
  have hascii : ∀ d < 16, (upperDigit d).toNat < 0x80 := fun d hd =>
    Text.toNat_lt_of_isAlphanum (isAlphanum_upperDigit hd)
  have hdigit : ∀ d, d < 16 →
      Text.digitValue? (Char.ofNat (UInt8.ofNat (upperDigit d).toNat).toNat) = some d := by
    intro d hd
    rw [Text.Utf8.toNat_of_ascii (hascii d hd), Char.ofNat_toNat]
    exact digitValue?_upperDigit hd
  have hbytes : Text.Utf8.encode (percentByte b) =
      [0x25, UInt8.ofNat (upperDigit (b.toNat / 16)).toNat,
        UInt8.ofNat (upperDigit (b.toNat % 16)).toNat] := by
    rw [percentByte_eq]
    simp only [Text.Utf8.encode, List.flatMap_cons, List.flatMap_nil,
      Text.Utf8.encodeChar_of_ascii (hascii _ hhigh),
      Text.Utf8.encodeChar_of_ascii (hascii _ hlow)]
    rfl
  rw [hbytes, List.cons_append, List.cons_append, List.cons_append, List.nil_append,
    percentDecode, hdigit _ hhigh, hdigit _ hlow]
  simp only [Nat.div_add_mod, UInt8.ofNat_toNat]

/-- Bytes that were written are read back. -/
theorem percentDecode_flatMap_percentByte (bytes s : List UInt8) :
    percentDecode (Text.Utf8.encode (bytes.flatMap percentByte) ++ s) =
      bytes ++ percentDecode s := by
  induction bytes with
  | nil => rfl
  | cons b bytes ih =>
      rw [List.flatMap_cons, Text.Utf8.encode_append, List.append_assoc,
        percentDecode_percentByte, ih, List.cons_append]

end LinkPreview.Url
