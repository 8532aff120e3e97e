/-!
# Words of a JSON text

A JSON text is a sequence of words with blanks between them. A string is kept as it is
written, with its escapes and whatever bytes stand in it: only the shape of its escapes
is looked at here. A number is kept as it is written too, and is as long as it can be.
-/

namespace LinkPreview.Json

/-- A word of a JSON text. -/
inductive Token where
  | openArray
  | closeArray
  | openObject
  | closeObject
  | comma
  | colon
  | null
  | bool (value : Bool)
  | number (written : List UInt8)
  | string (written : List UInt8)
  deriving DecidableEq, Repr

/-- The byte of an ASCII character. -/
def byte (c : Char) : UInt8 :=
  c.toNat.toUInt8

/-- The bytes of an ASCII text. -/
def bytes (s : String) : List UInt8 :=
  s.toList.map byte

/-- The blanks that may stand between words. -/
def isGap (b : UInt8) : Bool :=
  b == byte ' ' || b == byte '\t' || b == byte '\n' || b == byte '\r'

/-- Whether a byte is a decimal digit. -/
def isDigit (b : UInt8) : Bool :=
  byte '0' ≤ b && b ≤ byte '9'

/-- Whether a byte is a hexadecimal digit. -/
def isHexDigit (b : UInt8) : Bool :=
  isDigit b || (byte 'a' ≤ b && b ≤ byte 'f') || (byte 'A' ≤ b && b ≤ byte 'F')

/-- Whether a byte may follow a backslash on its own. -/
def isEscapeLetter (b : UInt8) : Bool :=
  (bytes "\"\\/bfnrt").contains b

namespace Token

/-- Reads the rest of a string after its opening quote: what is written in it, and what
follows its closing quote. -/
def readString? : List UInt8 → Option (List UInt8 × List UInt8)
  | [] => none
  | b :: s =>
    if b == byte '"' then some ([], s)
    else if b == byte '\\' then
      match s with
      | e :: s =>
        if isEscapeLetter e then (readString? s).map fun (w, rest) => (b :: e :: w, rest)
        else if e == byte 'u' then
          match s with
          | h₁ :: h₂ :: h₃ :: h₄ :: s =>
            if [h₁, h₂, h₃, h₄].all isHexDigit then
              (readString? s).map fun (w, rest) => (b :: e :: h₁ :: h₂ :: h₃ :: h₄ :: w, rest)
            else none
          | _ => none
        else none
      | [] => none
    else if b < 0x20 then none
    else (readString? s).map fun (w, rest) => (b :: w, rest)

/-- Reads digits, of which there must be one. -/
def readDigits? (s : List UInt8) : Option (List UInt8 × List UInt8) :=
  match s.takeWhile isDigit with
  | [] => none
  | digits => some (digits, s.dropWhile isDigit)

/-- Reads a whole number without a sign: a zero, or digits that do not begin with one. -/
def readWhole? : List UInt8 → Option (List UInt8 × List UInt8)
  | [] => none
  | b :: s => if b == byte '0' then some ([b], s) else readDigits? (b :: s)

/-- Reads a fraction, if there is one. -/
def readFraction? : List UInt8 → Option (List UInt8 × List UInt8)
  | [] => some ([], [])
  | b :: s =>
    if b == byte '.' then (readDigits? s).map fun (digits, rest) => (b :: digits, rest)
    else some ([], b :: s)

/-- Reads the digits of an exponent, which may have a sign. -/
def readSigned? : List UInt8 → Option (List UInt8 × List UInt8)
  | [] => none
  | b :: s =>
    if b == byte '+' || b == byte '-' then
      (readDigits? s).map fun (digits, rest) => (b :: digits, rest)
    else readDigits? (b :: s)

/-- Reads an exponent, if there is one. -/
def readExponent? : List UInt8 → Option (List UInt8 × List UInt8)
  | [] => some ([], [])
  | b :: s =>
    if b == byte 'e' || b == byte 'E' then
      (readSigned? s).map fun (digits, rest) => (b :: digits, rest)
    else some ([], b :: s)

/-- Reads a number without a sign. -/
def readUnsigned? (s : List UInt8) : Option (List UInt8 × List UInt8) := do
  let (whole, s) ← readWhole? s
  let (fraction, s) ← readFraction? s
  let (exponent, s) ← readExponent? s
  return (whole ++ fraction ++ exponent, s)

/-- Reads a number. -/
def readNumber? : List UInt8 → Option (List UInt8 × List UInt8)
  | [] => none
  | b :: s =>
    if b == byte '-' then (readUnsigned? s).map fun (w, rest) => (b :: w, rest)
    else readUnsigned? (b :: s)

/-- The rest of a text after a given beginning. -/
def dropStart? (start s : List UInt8) : Option (List UInt8) :=
  if start.isPrefixOf s then some (s.drop start.length) else none

/-- The words that are always written alike. -/
def fixed : List (List UInt8 × Token) :=
  [(bytes "[", openArray), (bytes "]", closeArray), (bytes "\x7b", openObject),
    (bytes "\x7d", closeObject), (bytes ",", comma), (bytes ":", colon),
    (bytes "null", null), (bytes "true", bool true), (bytes "false", bool false)]

/-- Reads a word that is always written alike. -/
def readFixed? (s : List UInt8) : Option (Token × List UInt8) :=
  fixed.findSome? fun (written, t) => (dropStart? written s).map fun rest => (t, rest)

/-- Reads the word that a text begins with. -/
def read? (s : List UInt8) : Option (Token × List UInt8) :=
  match readFixed? s with
  | some r => some r
  | none =>
    match s with
    | b :: rest =>
      if b == byte '"' then (readString? rest).map fun (w, rest) => (string w, rest)
      else (readNumber? s).map fun (w, rest) => (number w, rest)
    | [] => none

/-- The bytes of a word. -/
def write : Token → List UInt8
  | openArray => bytes "["
  | closeArray => bytes "]"
  | openObject => bytes "\x7b"
  | closeObject => bytes "\x7d"
  | comma => bytes ","
  | colon => bytes ":"
  | null => bytes "null"
  | bool true => bytes "true"
  | bool false => bytes "false"
  | number written => written
  | string written => byte '"' :: (written ++ [byte '"'])

theorem readDigits?_eq_some {s w rest : List UInt8} (h : readDigits? s = some (w, rest)) :
    w ≠ [] ∧ w ++ rest = s := by
  unfold readDigits? at h
  split at h
  · cases h
  · rename_i digits hne
    simp only [Option.some.injEq, Prod.mk.injEq] at h
    obtain ⟨rfl, rfl⟩ := h
    exact ⟨hne, List.takeWhile_append_dropWhile⟩

theorem readWhole?_eq_some {s w rest : List UInt8} (h : readWhole? s = some (w, rest)) :
    w ≠ [] ∧ w ++ rest = s := by
  unfold readWhole? at h
  split at h
  · cases h
  · split at h
    · simp only [Option.some.injEq, Prod.mk.injEq] at h
      obtain ⟨rfl, rfl⟩ := h
      simp
    · exact readDigits?_eq_some h

theorem readFraction?_eq_some {s w rest : List UInt8} (h : readFraction? s = some (w, rest)) :
    w ++ rest = s := by
  unfold readFraction? at h
  split at h
  · simp_all
  · split at h
    · obtain ⟨⟨d, r⟩, hd, he⟩ := Option.map_eq_some_iff.1 h
      simp only [Prod.mk.injEq] at he
      obtain ⟨rfl, rfl⟩ := he
      simp [(readDigits?_eq_some hd).2]
    · simp_all

theorem readSigned?_eq_some {s w rest : List UInt8} (h : readSigned? s = some (w, rest)) :
    w ++ rest = s := by
  unfold readSigned? at h
  split at h
  · cases h
  · split at h
    · obtain ⟨⟨d, r⟩, hd, he⟩ := Option.map_eq_some_iff.1 h
      simp only [Prod.mk.injEq] at he
      obtain ⟨rfl, rfl⟩ := he
      simp [(readDigits?_eq_some hd).2]
    · exact (readDigits?_eq_some h).2

theorem readExponent?_eq_some {s w rest : List UInt8} (h : readExponent? s = some (w, rest)) :
    w ++ rest = s := by
  unfold readExponent? at h
  split at h
  · simp_all
  · split at h
    · obtain ⟨⟨d, r⟩, hd, he⟩ := Option.map_eq_some_iff.1 h
      simp only [Prod.mk.injEq] at he
      obtain ⟨rfl, rfl⟩ := he
      simp [readSigned?_eq_some hd]
    · simp_all

theorem readUnsigned?_eq_some {s w rest : List UInt8} (h : readUnsigned? s = some (w, rest)) :
    w ≠ [] ∧ w ++ rest = s := by
  simp only [readUnsigned?, Option.bind_eq_bind, Option.bind_eq_some_iff] at h
  obtain ⟨⟨a, s₁⟩, ha, ⟨b, s₂⟩, hb, ⟨c, s₃⟩, hc, h⟩ := h
  dsimp only at hb hc
  simp only [Option.pure_def, Option.some.injEq, Prod.mk.injEq] at h
  obtain ⟨rfl, rfl⟩ := h
  obtain ⟨hne, rfl⟩ := readWhole?_eq_some ha
  rw [← readFraction?_eq_some hb, ← readExponent?_eq_some hc]
  simp [hne]

/-- A number is not empty, and nothing of the text is lost. -/
theorem readNumber?_eq_some {s w rest : List UInt8} (h : readNumber? s = some (w, rest)) :
    w ≠ [] ∧ w ++ rest = s := by
  unfold readNumber? at h
  split at h
  · cases h
  · split at h
    · obtain ⟨⟨d, r⟩, hd, he⟩ := Option.map_eq_some_iff.1 h
      simp only [Prod.mk.injEq] at he
      obtain ⟨rfl, rfl⟩ := he
      simp [(readUnsigned?_eq_some hd).2]
    · exact readUnsigned?_eq_some h

/-- Of a string nothing is lost but its closing quote. -/
theorem readString?_eq_some {s w rest : List UInt8} (h : readString? s = some (w, rest)) :
    w ++ byte '"' :: rest = s := by
  fun_induction readString? s generalizing w rest with
  | case1 => cases h
  | case2 b s hb => simp_all
  | case3 b hb hs e s he ih =>
    obtain ⟨⟨v, r⟩, hv, h⟩ := Option.map_eq_some_iff.1 h
    simp only [Prod.mk.injEq] at h
    obtain ⟨rfl, rfl⟩ := h
    simp [ih hv]
  | case4 b hb hs e he hu h₁ h₂ h₃ h₄ s hx ih =>
    obtain ⟨⟨v, r⟩, hv, h⟩ := Option.map_eq_some_iff.1 h
    simp only [Prod.mk.injEq] at h
    obtain ⟨rfl, rfl⟩ := h
    simp [ih hv]
  | case5 => cases h
  | case6 => cases h
  | case7 => cases h
  | case8 => cases h
  | case9 => cases h
  | case10 b s hb hs hc ih =>
    obtain ⟨⟨v, r⟩, hv, h⟩ := Option.map_eq_some_iff.1 h
    simp only [Prod.mk.injEq] at h
    obtain ⟨rfl, rfl⟩ := h
    simp [ih hv]

theorem dropStart?_eq_some {start s rest : List UInt8} (h : dropStart? start s = some rest) :
    start ++ rest = s := by
  unfold dropStart? at h
  split at h
  · rename_i hp
    obtain ⟨t, rfl⟩ := List.isPrefixOf_iff_prefix.1 hp
    simp_all
  · cases h

/-- The words that are always written alike are written as `write` says. -/
theorem write_of_mem_fixed {w : List UInt8} {t : Token} (h : (w, t) ∈ fixed) :
    write t = w ∧ w ≠ [] := by
  simp only [fixed, List.mem_cons, Prod.mk.injEq, List.not_mem_nil, or_false] at h
  rcases h with h | h | h | h | h | h | h | h | h <;> obtain ⟨rfl, rfl⟩ := h <;>
    exact ⟨rfl, by decide⟩

/-- What was read is what is written at the front of the text. -/
theorem read?_eq_some {s rest : List UInt8} {t : Token} (h : read? s = some (t, rest)) :
    write t ≠ [] ∧ write t ++ rest = s := by
  unfold read? at h
  split at h
  · rename_i r hr
    simp only [Option.some.injEq] at h
    subst h
    obtain ⟨⟨w, t'⟩, hm, ht⟩ := List.exists_of_findSome?_eq_some hr
    obtain ⟨r, hd, he⟩ := Option.map_eq_some_iff.1 ht
    simp only [Prod.mk.injEq] at he
    obtain ⟨rfl, rfl⟩ := he
    obtain ⟨rfl, hne⟩ := write_of_mem_fixed hm
    exact ⟨hne, dropStart?_eq_some hd⟩
  · split at h
    · rename_i b s'
      split at h
      · rename_i hb
        obtain ⟨⟨w, r⟩, hw, he⟩ := Option.map_eq_some_iff.1 h
        simp only [Prod.mk.injEq] at he
        obtain ⟨rfl, rfl⟩ := he
        have := readString?_eq_some hw
        simp_all [write]
      · obtain ⟨⟨w, r⟩, hw, he⟩ := Option.map_eq_some_iff.1 h
        simp only [Prod.mk.injEq] at he
        obtain ⟨rfl, rfl⟩ := he
        exact readNumber?_eq_some hw
    · cases h

/-- A word takes something away from the text. -/
theorem length_read? {s rest : List UInt8} {t : Token} (h : read? s = some (t, rest)) :
    rest.length < s.length := by
  obtain ⟨hne, rfl⟩ := read?_eq_some h
  have := List.length_pos_iff.2 hne
  simp only [List.length_append]
  omega

/-- The words of a text, if it consists of words. -/
def readAll? (s : List UInt8) : Option (List Token) :=
  match h : s.dropWhile isGap with
  | [] => some []
  | b :: rest =>
    match hr : read? (b :: rest) with
    | none => none
    | some (t, rest') =>
      have : rest'.length < s.length :=
        Nat.lt_of_lt_of_le (length_read? hr)
          (h ▸ (List.dropWhile_suffix isGap (l := s)).length_le)
      (readAll? rest').map (t :: ·)
termination_by s.length

end Token

end LinkPreview.Json
