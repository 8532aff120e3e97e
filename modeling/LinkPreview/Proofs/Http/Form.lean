import LinkPreview.Http.Form
import LinkPreview.Proofs.Text.Blank
import LinkPreview.Proofs.Url.Percent

/-!
# Forms are read as they are written

`Form.write` writes a form the way browsers do: letters, digits and four marks stand for
themselves, a space is a plus sign, and any other character is written as its bytes. What it
writes is read back, whatever the keys and the values are.

## Implementation notes

A written key or value holds no ampersand and no equals sign, so the pairs and their parts are
found again. A plus sign is never one that stands for itself, so that spaces may be read from plus
signs before the bytes are.
-/

namespace LinkPreview.Http.Form

/-- Whether a character stands for itself. -/
def isKept (c : Char) : Bool :=
  c.isAlphanum || "*-._".toList.contains c

/-- A character of a key or a value as it stands in a form. -/
def encodeChar (c : Char) : List Char :=
  if isKept c then [c]
  else if c = ' ' then ['+']
  else (Text.Utf8.encode [c]).flatMap Url.percentByte

/-- A key or a value as it stands in a form. -/
def encode (s : String) : List Char :=
  s.toList.flatMap encodeChar

/-- A pair as it stands in a form. -/
def writePair (pair : String × String) : List Char :=
  encode pair.1 ++ '=' :: encode pair.2

/-- Writes a form. -/
def write (pairs : List (String × String)) : String :=
  String.ofList (['&'].intercalate (pairs.map writePair))

/-! ## What stands in a form -/

/-- Whether a character may stand in a written key or value. -/
def isWritten (c : Char) : Bool :=
  isKept c || c == '+' || c == '%'

theorem toNat_lt_of_isKept {c : Char} (hc : isKept c = true) : c.toNat < 0x80 := by
  rcases Bool.or_eq_true_iff.mp hc with hc | hc
  · exact Text.toNat_lt_of_isAlphanum hc
  · have hmarks : "*-._".toList.all (fun c => decide (c.toNat < 0x80)) = true := by decide
    exact of_decide_eq_true (List.all_eq_true.mp hmarks c (by simpa using hc))

theorem toNat_lt_of_isWritten {c : Char} (hc : isWritten c = true) : c.toNat < 0x80 := by
  rcases Bool.or_eq_true_iff.mp hc with hc | hc
  · rcases Bool.or_eq_true_iff.mp hc with hc | hc
    · exact toNat_lt_of_isKept hc
    · rw [beq_iff_eq.mp hc]
      decide
  · rw [beq_iff_eq.mp hc]
    decide

theorem isWritten_of_mem_percentByte {b : UInt8} {c : Char} (hc : c ∈ Url.percentByte b) :
    isWritten c = true := by
  have hb : b.toNat < 256 := UInt8.toNat_lt b
  rw [Url.percentByte_eq] at hc
  simp only [List.mem_cons, List.not_mem_nil, or_false] at hc
  rcases hc with rfl | rfl | rfl
  · rfl
  · simp [isWritten, isKept, Url.isAlphanum_upperDigit (d := b.toNat / 16) (by omega)]
  · simp [isWritten, isKept, Url.isAlphanum_upperDigit (d := b.toNat % 16) (by omega)]

theorem isWritten_of_mem_encode {s : String} {c : Char} (hc : c ∈ encode s) :
    isWritten c = true := by
  obtain ⟨a, -, ha⟩ := List.mem_flatMap.mp hc
  unfold encodeChar at ha
  split at ha
  · rename_i hkept
    rw [List.mem_singleton.mp ha]
    simp [isWritten, hkept]
  · split at ha
    · rw [List.mem_singleton.mp ha]
      rfl
    · obtain ⟨b, -, hb⟩ := List.mem_flatMap.mp ha
      exact isWritten_of_mem_percentByte hb

/-- A character of a class is not one outside of it. -/
theorem ne_of_class {p : Char → Bool} {c d : Char} (hc : p c = true) (hd : p d = false) :
    c ≠ d := by
  rintro rfl
  rw [hc] at hd
  cases hd

/-- What is written in a form: keys and values, with equals signs and ampersands between. -/
theorem mem_write {pairs : List (String × String)} {c : Char} (hc : c ∈ (write pairs).toList) :
    isWritten c = true ∨ c = '=' ∨ c = '&' := by
  have hpair : ∀ pair, c ∈ writePair pair → isWritten c = true ∨ c = '=' ∨ c = '&' := by
    intro pair hm
    rcases List.mem_append.mp hm with hm | hm
    · exact Or.inl (isWritten_of_mem_encode hm)
    · rcases List.mem_cons.mp hm with rfl | hm
      · exact Or.inr (Or.inl rfl)
      · exact Or.inl (isWritten_of_mem_encode hm)
  rw [write, String.toList_ofList] at hc
  induction pairs with
  | nil => cases hc
  | cons pair pairs ih =>
      cases pairs with
      | nil =>
          rw [List.map_singleton, List.intercalate_singleton] at hc
          exact hpair pair hc
      | cons next pairs =>
          rw [List.map_cons, List.map_cons, List.intercalate_cons_cons, List.append_assoc] at hc
          rcases List.mem_append.mp hc with hc | hc
          · exact hpair pair hc
          · rcases List.mem_append.mp hc with hc | hc
            · exact Or.inr (Or.inr (List.mem_singleton.mp hc))
            · exact ih hc

/-! ## Keys and values -/

/-- A character of a text that is to be read, where a plus sign is a space. -/
def spaced (c : Char) : Char :=
  if c == '+' then ' ' else c

theorem spaced_of_ne {c : Char} (hc : c ≠ '+') : spaced c = c := by
  simp [spaced, hc]

theorem map_spaced_percentByte (b : UInt8) :
    (Url.percentByte b).map spaced = Url.percentByte b := by
  have hb : b.toNat < 256 := UInt8.toNat_lt b
  have hdigit : ∀ d < 16, spaced (Url.upperDigit d) = Url.upperDigit d := by decide
  rw [Url.percentByte_eq, List.map_cons, List.map_cons, List.map_cons, List.map_nil,
    hdigit _ (by omega), hdigit _ (by omega)]
  rfl

/-- A character that is written is read back, whatever follows it. -/
theorem percentDecode_encodeChar (c : Char) (s : List UInt8) :
    Url.percentDecode (Text.Utf8.encode ((encodeChar c).map spaced) ++ s) =
      Text.Utf8.encode [c] ++ Url.percentDecode s := by
  unfold encodeChar
  split
  · rename_i hkept
    have hplus : c ≠ '+' := by
      rintro rfl
      exact absurd hkept (by decide)
    have hpercent : c ≠ '%' := by
      rintro rfl
      exact absurd hkept (by decide)
    rw [List.map_singleton, spaced_of_ne hplus]
    exact Url.percentDecode_ascii (toNat_lt_of_isKept hkept) hpercent s
  · split
    · rename_i hspace
      rw [hspace]
      exact Url.percentDecode_ascii (c := ' ') (by decide) (by decide) s
    · have hmap : ((Text.Utf8.encode [c]).flatMap Url.percentByte).map spaced =
          (Text.Utf8.encode [c]).flatMap Url.percentByte := by
        simp only [List.map_flatMap, map_spaced_percentByte]
      rw [hmap]
      exact Url.percentDecode_flatMap_percentByte _ s

/-- A key or a value is read as it was written. -/
theorem decode_encode (s : String) : decode (encode s) = s := by
  have hbytes : ∀ cs : List Char,
      Url.percentDecode (Text.Utf8.encode ((cs.flatMap encodeChar).map spaced)) =
        Text.Utf8.encode cs := by
    intro cs
    induction cs with
    | nil => rfl
    | cons c cs ih =>
        rw [List.flatMap_cons, List.map_append, Text.Utf8.encode_append,
          percentDecode_encodeChar, ih, ← Text.Utf8.encode_append]
        rfl
  have hmap : (encode s).map (fun c => if c == '+' then ' ' else c) =
      (s.toList.flatMap encodeChar).map spaced := rfl
  rw [decode, hmap, hbytes, Text.Utf8.decodeLossy_encode, String.ofList_toList]

/-! ## Pairs -/

/-- A pair is read as it was written. -/
theorem readPair_writePair (pair : String × String) : readPair (writePair pair) = pair := by
  have hkey : ∀ c ∈ encode pair.1, (c != '=') = true := by
    intro c hc
    simpa using ne_of_class (isWritten_of_mem_encode hc) (show isWritten '=' = false by rfl)
  rw [readPair, writePair, List.takeWhile_append_of_pos hkey, List.dropWhile_append_of_pos hkey]
  simp [decode_encode]

theorem ne_ampersand_of_mem_writePair {pair : String × String} {c : Char}
    (hc : c ∈ writePair pair) : (c == '&') = false := by
  have hampersand : isWritten '&' = false := rfl
  rcases List.mem_append.mp hc with hc | hc
  · simpa using ne_of_class (isWritten_of_mem_encode hc) hampersand
  · rcases List.mem_cons.mp hc with rfl | hc
    · rfl
    · simpa using ne_of_class (isWritten_of_mem_encode hc) hampersand

/-- The pairs are found again between the ampersands. -/
theorem splitWhere_intercalate (pair : String × String) (pairs : List (String × String)) :
    Text.splitWhere (· == '&') (['&'].intercalate ((pair :: pairs).map writePair)) =
      (pair :: pairs).map writePair := by
  induction pairs generalizing pair with
  | nil =>
      rw [List.map_singleton, List.intercalate_singleton]
      exact Text.splitWhere_of_forall fun c hc => ne_ampersand_of_mem_writePair hc
  | cons next pairs ih =>
      rw [List.map_cons, List.map_cons, List.intercalate_cons_cons, List.append_assoc,
        List.singleton_append, Text.splitWhere_append_cons rfl,
        Text.splitWhere_of_forall fun c hc => ne_ampersand_of_mem_writePair hc]
      exact congrArg _ (ih next)

/-- A form is read as it was written. -/
theorem read_write (pairs : List (String × String)) : read (write pairs) = pairs := by
  cases pairs with
  | nil => rfl
  | cons pair pairs =>
      have hall : ∀ piece ∈ (pair :: pairs).map writePair, (!piece.isEmpty) = true := by
        intro piece hm
        obtain ⟨p, -, rfl⟩ := List.mem_map.mp hm
        simp [writePair]
      have hread : ((pair :: pairs).map writePair).map readPair = pair :: pairs := by
        rw [List.map_map]
        exact (List.map_congr_left fun p _ => readPair_writePair p).trans (List.map_id _)
      rw [read, write, String.toList_ofList, splitWhere_intercalate,
        List.filter_eq_self.mpr hall, hread]

end LinkPreview.Http.Form
