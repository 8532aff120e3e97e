import LinkPreview.Json.Value
import LinkPreview.Proofs.Text.Numeral
import LinkPreview.Proofs.Text.Utf8

/-!
# Written strings

`textOf?` takes a written string back to its text. `IsStringBody` tells what may stand between
quotes, and a written string may: the only quotes and backslashes in it are those of its
escapes, since a character behind the first 128 has no byte below 0x80.
-/

namespace LinkPreview.Json

open Text

/-! ## What a written string says -/

theorem readNumeral?_hex (n : Nat) : readNumeral? 16 (padLeft 4 (hex n)) = some n :=
  readNumeral?_padLeft (by decide) (by decide) 4 n

theorem isHighSurrogate_iff {n : Nat} : isHighSurrogate n = true ↔ 0xD800 ≤ n ∧ n ≤ 0xDBFF := by
  simp [isHighSurrogate]

theorem isLowSurrogate_iff {n : Nat} : isLowSurrogate n = true ↔ 0xDC00 ≤ n ∧ n ≤ 0xDFFF := by
  simp [isLowSurrogate]

theorem exists_digits {digits : List Char} (hl : digits.length = 4) :
    ∃ a b c d, digits = [a, b, c, d] :=
  match digits, hl with
  | [a, b, c, d], _ => ⟨a, b, c, d, rfl⟩

theorem unescape?_unit {digits : List Char} {n : Nat} (hl : digits.length = 4)
    (hn : readNumeral? 16 digits = some n) (hs : n < 0xD800 ∨ 0xDFFF < n) (rest : List Char) :
    unescape? ('\\' :: 'u' :: (digits ++ rest)) = (unescape? rest).map (Char.ofNat n :: ·) := by
  obtain ⟨a, b, c, d, rfl⟩ := exists_digits hl
  have hlow : ¬ isLowSurrogate n = true := by
    rw [isLowSurrogate_iff]
    omega
  have hhigh : ¬ isHighSurrogate n = true := by
    rw [isHighSurrogate_iff]
    omega
  simp only [List.cons_append, List.nil_append, unescape?, hn, Option.bind_eq_bind,
    Option.bind_some, if_neg hlow, if_neg hhigh]
  rw [Option.map_eq_bind]
  rfl

/-- A code unit that is no half of a pair stands for a character. -/
theorem unescape?_codeUnit {n : Nat} (hn : n < 0xD800) (rest : List Char) :
    unescape? (codeUnit n ++ rest) = (unescape? rest).map (Char.ofNat n :: ·) := by
  have hl : (padLeft 4 (hex n)).length = 4 := by
    have hhex : (hex n).length ≤ 4 :=
      (Nat.length_toDigits_le_iff (by decide) (by decide)).mpr (by omega)
    rw [length_padLeft]
    omega
  exact unescape?_unit hl (readNumeral?_hex n) (.inl hn) rest

theorem unescape?_letter {e c : Char} (he : escapedLetter? e = some c) (hu : e ≠ 'u')
    (rest : List Char) : unescape? ('\\' :: e :: rest) = (unescape? rest).map (c :: ·) := by
  rw [unescape?]
  · simp [he, Option.map_eq_bind]
  · intros
    simp_all

theorem unescape?_plain {c : Char} (hc : c ≠ '\\') (rest : List Char) :
    unescape? (c :: rest) = (unescape? rest).map (c :: ·) := by
  rw [unescape?]
  · simp [Option.map_eq_bind]
  all_goals
    intros
    simp_all

theorem unescape?_escapeChar (c : Char) (rest : List Char) :
    unescape? (escapeChar c ++ rest) = (unescape? rest).map (c :: ·) := by
  unfold escapeChar
  split
  case h_8 =>
    split
    · rename_i h
      have hn : c.toNat < 32 := h
      rw [unescape?_codeUnit (by omega), Char.ofNat_toNat]
    · exact unescape?_plain ‹_› rest
  all_goals exact unescape?_letter rfl (by decide) rest

/-- What was escaped is read as the same text. -/
theorem unescape?_escape (s : List Char) : unescape? (escape s) = some s := by
  induction s with
  | nil => rfl
  | cons c s ih =>
      rw [escape, List.flatMap_cons, unescape?_escapeChar, ← escape, ih]
      rfl

@[simp]
theorem textOf?_written (s : String) : textOf? (written s) = some s := by
  simp [textOf?, written, Utf8.decode?_encode, unescape?_escape]

/-! ## Plain bytes -/

/-- Whether a byte stands for itself in a string. -/
def isPlain (b : UInt8) : Bool :=
  b != byte '"' && b != byte '\\' && 0x20 ≤ b

theorem isPlain_iff_toNat {b : UInt8} :
    isPlain b ↔ b.toNat ≠ 34 ∧ b.toNat ≠ 92 ∧ 32 ≤ b.toNat := by
  simp only [isPlain, Bool.and_eq_true, bne_iff_ne, decide_eq_true_eq, ne_eq, ← UInt8.toNat_inj,
    UInt8.le_iff_toNat_le, and_assoc]
  rfl

/-- Behind the first 128 characters no byte of a character is that of another one. -/
theorem le_toNat_of_mem_encodeChar {c : Char} (hc : 0x80 ≤ c.toNat) {b : UInt8}
    (hb : b ∈ String.utf8EncodeChar c) : 0x80 ≤ b.toNat := by
  have hv := Utf8.toNat_cases c
  simp only [String.utf8EncodeChar, show c.val.toNat = c.toNat from rfl] at hb
  rw [if_neg (by omega)] at hb
  have ht (n m k : Nat) (hk : 0 < k) (hm : 0x80 ≤ m) (hs : k + m ≤ 256) :
      0x80 ≤ (UInt8.ofNat (n % k + m)).toNat := by
    have := Nat.mod_lt n hk
    rw [UInt8.toNat_ofNat']
    omega
  split at hb
  · simp only [List.mem_cons, List.not_mem_nil, or_false] at hb
    rcases hb with rfl | rfl <;> exact ht _ _ _ (by decide) (by decide) (by decide)
  · split at hb <;> simp only [List.mem_cons, List.not_mem_nil, or_false] at hb
    · rcases hb with rfl | rfl | rfl <;> exact ht _ _ _ (by decide) (by decide) (by decide)
    · rcases hb with rfl | rfl | rfl | rfl <;>
        exact ht _ _ _ (by decide) (by decide) (by decide)

theorem encodeChar_of_lt {c : Char} (hc : c.toNat < 0x80) :
    String.utf8EncodeChar c = [byte c] :=
  Utf8.encodeChar_of_ascii hc

theorem toNat_byte {c : Char} (hc : c.toNat < 0x80) : (byte c).toNat = c.toNat :=
  Utf8.toNat_of_ascii hc

theorem isPlain_of_mem_encodeChar {c : Char} (hq : c ≠ '"') (hs : c ≠ '\\') (hc : ¬ c < ' ')
    {b : UInt8} (hb : b ∈ String.utf8EncodeChar c) : isPlain b := by
  rw [isPlain_iff_toNat]
  by_cases hlt : c.toNat < 0x80
  · rw [encodeChar_of_lt hlt, List.mem_singleton] at hb
    rw [hb, toNat_byte hlt]
    refine ⟨fun h => hq ?_, fun h => hs ?_, Nat.le_of_not_lt hc⟩
    · exact Char.toNat_inj.mp h
    · exact Char.toNat_inj.mp h
  · have := le_toNat_of_mem_encodeChar (Nat.le_of_not_lt hlt) hb
    omega

/-- The bytes of a code unit: those of a backslash, of the letter and of four digits. -/
theorem exists_encode_codeUnit {n : Nat} (hn : n < 32) :
    ∃ a b c d, Utf8.encode (codeUnit n) = [byte '\\', byte 'u', a, b, c, d] ∧
      [a, b, c, d].all isHexDigit := by
  have hd : ∀ n < 32, Utf8.encode (codeUnit n) = [byte '\\', byte 'u', byte '0', byte '0',
      byte (Nat.digitChar (n / 16)), byte (Nat.digitChar (n % 16))] := by decide
  have hh : ∀ k < 16, isHexDigit (byte (Nat.digitChar k)) := by decide
  refine ⟨_, _, _, _, hd n hn, ?_⟩
  simp only [List.all_cons, List.all_nil, hh (n / 16) (by omega), hh (n % 16) (by omega)]
  decide

/-! ## The inside of a string -/

/-- The inside of a string. -/
inductive IsStringBody : List UInt8 → Prop where
  | nil : IsStringBody []
  | plain {b : UInt8} {w : List UInt8} (hb : isPlain b = true) (h : IsStringBody w) :
      IsStringBody (b :: w)
  | letter {e : UInt8} {w : List UInt8} (he : isEscapeLetter e = true) (h : IsStringBody w) :
      IsStringBody (byte '\\' :: e :: w)
  | unit {digits w : List UInt8} (hl : digits.length = 4) (hd : ∀ d ∈ digits, isHexDigit d = true)
      (h : IsStringBody w) : IsStringBody (byte '\\' :: byte 'u' :: (digits ++ w))

theorem IsStringBody.plain_append {w v : List UInt8} (hw : ∀ b ∈ w, isPlain b = true)
    (hv : IsStringBody v) : IsStringBody (w ++ v) := by
  induction w with
  | nil => exact hv
  | cons b w ih =>
      exact .plain (hw b List.mem_cons_self) (ih fun b hb => hw b (List.mem_cons_of_mem _ hb))

theorem IsStringBody.codeUnit_append {n : Nat} (hn : n < 32) {v : List UInt8}
    (hv : IsStringBody v) : IsStringBody (Utf8.encode (codeUnit n) ++ v) := by
  obtain ⟨a, b, c, d, he, hh⟩ := exists_encode_codeUnit hn
  have hunit : IsStringBody (byte '\\' :: byte 'u' :: ([a, b, c, d] ++ v)) :=
    .unit rfl (List.all_eq_true.mp hh) hv
  rw [he]
  exact hunit

theorem IsStringBody.escapeChar_append (c : Char) {v : List UInt8} (hv : IsStringBody v) :
    IsStringBody (Utf8.encode (escapeChar c) ++ v) := by
  unfold escapeChar
  split
  case h_8 c hq hs _ _ _ _ _ =>
    split
    · rename_i h
      exact hv.codeUnit_append h
    · rename_i h
      refine hv.plain_append fun b hb => isPlain_of_mem_encodeChar hq hs h ?_
      simpa [Utf8.encode] using hb
  all_goals exact .letter (by decide) hv

/-- What is written of a text is the inside of a string. -/
theorem isStringBody_written (s : String) : IsStringBody (written s) := by
  have h (cs : List Char) : IsStringBody (Utf8.encode (escape cs)) := by
    induction cs with
    | nil => exact .nil
    | cons c cs ih =>
        have he : Utf8.encode (escape (c :: cs)) =
            Utf8.encode (escapeChar c) ++ Utf8.encode (escape cs) := by
          simp [Utf8.encode, escape]
        rw [he]
        exact ih.escapeChar_append c
  exact h s.toList

end LinkPreview.Json
