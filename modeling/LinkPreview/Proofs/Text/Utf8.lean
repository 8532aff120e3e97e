import LinkPreview.Proofs.Text.Character
import LinkPreview.Text.Utf8

/-!
# Decoding what was encoded

A character has one to four bytes. Its first byte tells how many follow and bounds the
second one, so that no character has two encodings; `decode?` therefore takes from any
text exactly the bytes that `encode` wrote for its first character, and decodes nothing that
`encode` has not written.
-/

namespace LinkPreview.Text.Utf8

/-- A byte that may follow adds its six bits to the code point. -/
theorem follow_cons {share following low high taken : Nat} {b : UInt8} {s : List UInt8}
    (hl : low ≤ b.toNat) (hh : b.toNat ≤ high) :
    follow share (following + 1) low high taken (b :: s) =
      follow (share * 64 + (b.toNat - 0x80)) following 0x80 0xBF (taken + 1) s := by
  rw [follow, if_pos ⟨hl, hh⟩]

/-- A byte of six payload bits lies between 0x80 and 0xBF. -/
theorem toNat_trailing (n : Nat) : (UInt8.ofNat (n % 64 + 0x80)).toNat = n % 64 + 0x80 := by
  rw [UInt8.toNat_ofNat']
  omega

theorem readFirst_of_lead {b : UInt8} {l : Lead} {s : List UInt8} {c : Char} {taken : Nat}
    (hl : lead? b = some l)
    (hf : follow l.share l.following l.low l.high 0 s = (some c.toNat, taken)) :
    readFirst b s = (some c, taken) := by
  simp only [readFirst, hl, hf, Char.ofNat_toNat]

/-- A code point is no half of a surrogate pair and has at most twenty-one bits. -/
theorem toNat_cases (c : Char) : c.toNat < 0xD800 ∨ 0xDFFF < c.toNat ∧ c.toNat < 0x110000 :=
  c.valid

/-- The first of three bytes bounds the second one from both sides at the ends of its range. -/
theorem lead?_of_three {v : Nat} (hv : 0x7FF < v) (hw : v ≤ 0xFFFF)
    (hc : v < 0xD800 ∨ 0xDFFF < v) :
    ∃ low high, lead? (UInt8.ofNat (v / 4096 % 16 + 0xE0)) = some ⟨2, low, high, v / 4096⟩ ∧
      low ≤ v / 64 % 64 + 0x80 ∧ v / 64 % 64 + 0x80 ≤ high := by
  have hb : (UInt8.ofNat (v / 4096 % 16 + 0xE0)).toNat = v / 4096 + 0xE0 := by
    rw [UInt8.toNat_ofNat']
    omega
  simp only [lead?, hb]
  rw [if_neg (by omega), if_neg (by omega)]
  by_cases h0 : v / 4096 = 0
  · rw [if_pos (by omega), h0]
    exact ⟨0xA0, 0xBF, rfl, by omega, by omega⟩
  · rw [if_neg (by omega), Nat.add_sub_cancel]
    by_cases hD : v / 4096 = 13
    · rw [if_pos (by omega)]
      exact ⟨0x80, 0x9F, rfl, by omega, by omega⟩
    · rw [if_neg (by omega), if_pos (by omega)]
      exact ⟨0x80, 0xBF, rfl, by omega, by omega⟩

/-- The first of four bytes does the same: neither a shorter character nor one that is too
great passes. -/
theorem lead?_of_four {v : Nat} (hv : 0xFFFF < v) (hw : v < 0x110000) :
    ∃ low high, lead? (UInt8.ofNat (v / 262144 % 8 + 0xF0)) = some ⟨3, low, high, v / 262144⟩ ∧
      low ≤ v / 4096 % 64 + 0x80 ∧ v / 4096 % 64 + 0x80 ≤ high := by
  have hb : (UInt8.ofNat (v / 262144 % 8 + 0xF0)).toNat = v / 262144 + 0xF0 := by
    rw [UInt8.toNat_ofNat']
    omega
  simp only [lead?, hb]
  rw [if_neg (by omega), if_neg (by omega), if_neg (by omega), if_neg (by omega),
    if_neg (by omega)]
  by_cases h0 : v / 262144 = 0
  · rw [if_pos (by omega), h0]
    exact ⟨0x90, 0xBF, rfl, by omega, by omega⟩
  · rw [if_neg (by omega), Nat.add_sub_cancel]
    by_cases h4 : v / 262144 = 4
    · rw [if_neg (by omega), if_pos (by omega)]
      exact ⟨0x80, 0x8F, rfl, by omega, by omega⟩
    · rw [if_pos (by omega)]
      exact ⟨0x80, 0xBF, rfl, by omega, by omega⟩

/-- The bytes of a character are read back as this character, whatever follows them. -/
theorem exists_readFirst_encodeChar (c : Char) :
    ∃ b tail, String.utf8EncodeChar c = b :: tail ∧
      ∀ rest, readFirst b (tail ++ rest) = (some c, tail.length) := by
  have hv := toNat_cases c
  simp only [String.utf8EncodeChar, show c.val.toNat = c.toNat from rfl]
  split
  · rename_i h1
    refine ⟨_, _, rfl, fun rest => ?_⟩
    have hb : (UInt8.ofNat c.toNat).toNat = c.toNat := by
      rw [UInt8.toNat_ofNat']
      omega
    apply readFirst_of_lead (l := ⟨0, 0, 0, c.toNat⟩)
    · simp only [lead?, hb]
      rw [if_pos (by omega)]
    · rfl
  · split
    · rename_i h1 h2
      refine ⟨_, _, rfl, fun rest => ?_⟩
      have hb : (UInt8.ofNat (c.toNat / 64 % 32 + 0xC0)).toNat = c.toNat / 64 + 0xC0 := by
        rw [UInt8.toNat_ofNat']
        omega
      apply readFirst_of_lead (l := ⟨1, 0x80, 0xBF, c.toNat / 64⟩)
      · simp only [lead?, hb]
        rw [if_neg (by omega), if_pos (by omega)]
        simp
      · have ht := toNat_trailing c.toNat
        simp only [List.cons_append, List.nil_append, List.length_cons, List.length_nil]
        rw [follow_cons (by omega) (by omega), follow, ht]
        simp only [Prod.mk.injEq, Option.some.injEq, and_true]
        omega
    · split
      · rename_i h1 h2 h3
        refine ⟨_, _, rfl, fun rest => ?_⟩
        obtain ⟨low, high, hl, hlow, hhigh⟩ :=
          lead?_of_three (v := c.toNat) (by omega) h3 (by omega)
        apply readFirst_of_lead hl
        have ht := toNat_trailing c.toNat
        have hu := toNat_trailing (c.toNat / 64)
        simp only [List.cons_append, List.nil_append, List.length_cons, List.length_nil]
        rw [follow_cons (by omega) (by omega), follow_cons (by omega) (by omega), follow, ht, hu]
        simp only [Prod.mk.injEq, Option.some.injEq, and_true]
        omega
      · rename_i h1 h2 h3
        refine ⟨_, _, rfl, fun rest => ?_⟩
        obtain ⟨low, high, hl, hlow, hhigh⟩ :=
          lead?_of_four (v := c.toNat) (by omega) (by omega)
        apply readFirst_of_lead hl
        have ht := toNat_trailing c.toNat
        have hu := toNat_trailing (c.toNat / 64)
        have hw := toNat_trailing (c.toNat / 4096)
        simp only [List.cons_append, List.nil_append, List.length_cons, List.length_nil]
        rw [follow_cons (by omega) (by omega), follow_cons (by omega) (by omega),
          follow_cons (by omega) (by omega), follow, ht, hu, hw]
        simp only [Prod.mk.injEq, Option.some.injEq, and_true]
        omega

theorem decode?_encodeChar_append (c : Char) (rest : List UInt8) :
    decode? (String.utf8EncodeChar c ++ rest) = (decode? rest).map (c :: ·) := by
  obtain ⟨b, tail, he, hr⟩ := exists_readFirst_encodeChar c
  rw [he, List.cons_append, decode?, hr rest]
  simp

/-- What was encoded is decoded to the same text. -/
theorem decode?_encode (s : List Char) : decode? (encode s) = some s := by
  induction s with
  | nil => simp [encode, decode?]
  | cons c s ih =>
      rw [encode, List.flatMap_cons, decode?_encodeChar_append, ← encode, ih]
      rfl

theorem decodeLossy_encodeChar_append (c : Char) (rest : List UInt8) :
    decodeLossy (String.utf8EncodeChar c ++ rest) = c :: decodeLossy rest := by
  obtain ⟨b, tail, he, hr⟩ := exists_readFirst_encodeChar c
  rw [he, List.cons_append, decodeLossy, hr rest]
  simp

/-- In what was encoded, nothing has to be replaced. -/
theorem decodeLossy_encode (s : List Char) : decodeLossy (encode s) = s := by
  induction s with
  | nil => simp [encode, decodeLossy]
  | cons c s ih =>
      rw [encode, List.flatMap_cons, decodeLossy_encodeChar_append, ← encode, ih]

/-! ## What is decoded was encoded -/

/-- A character that takes a further byte takes one within bounds. -/
theorem exists_of_follow_succ {share following low high taken code total : Nat} {s : List UInt8}
    (h : follow share (following + 1) low high taken s = (some code, total)) :
    ∃ b rest, s = b :: rest ∧ low ≤ b.toNat ∧ b.toNat ≤ high ∧
      follow (share * 64 + (b.toNat - 0x80)) following 0x80 0xBF (taken + 1) rest =
        (some code, total) := by
  cases s with
  | nil => simp [follow] at h
  | cons b rest =>
      rw [follow] at h
      split at h
      · rename_i hb
        exact ⟨b, rest, rfl, hb.1, hb.2, h⟩
      · simp at h

theorem eq_of_follow_zero {share low high taken code total : Nat} {s : List UInt8}
    (h : follow share 0 low high taken s = (some code, total)) : code = share ∧ total = taken := by
  simp only [follow, Prod.mk.injEq, Option.some.injEq] at h
  exact ⟨h.1.symm, h.2.symm⟩

theorem toNat_ofNat_of_isValid {n : Nat} (h : n < 0xD800 ∨ 0xDFFF < n ∧ n < 0x110000) :
    (Char.ofNat n).toNat = n := by
  rw [Char.ofNat, dif_pos (show n.isValidChar from h)]
  rfl

theorem ofNat_eq {b : UInt8} {n : Nat} (h : b.toNat = n) : UInt8.ofNat n = b := by
  rw [← h, UInt8.ofNat_toNat]

/-- What a first byte says, by the number of bytes that follow it. -/
theorem lead?_eq_some {b : UInt8} {l : Lead} (h : lead? b = some l) :
    (l.following = 0 ∧ b.toNat < 0x80 ∧ l.share = b.toNat) ∨
      (l.following = 1 ∧ l.share + 0xC0 = b.toNat ∧ 2 ≤ l.share ∧ l.share < 0x20 ∧
        l.low = 0x80 ∧ l.high = 0xBF) ∨
      (l.following = 2 ∧ l.share + 0xE0 = b.toNat ∧ l.share < 0x10 ∧ 0x80 ≤ l.low ∧
        l.high ≤ 0xBF ∧ (l.share = 0 → 0xA0 ≤ l.low) ∧ (l.share = 0xD → l.high ≤ 0x9F)) ∨
      (l.following = 3 ∧ l.share + 0xF0 = b.toNat ∧ l.share ≤ 4 ∧ 0x80 ≤ l.low ∧
        l.high ≤ 0xBF ∧ (l.share = 0 → 0x90 ≤ l.low) ∧ (l.share = 4 → l.high ≤ 0x8F)) := by
  unfold lead? at h
  dsimp only at h
  repeat' split at h
  all_goals cases h
  all_goals
    dsimp only
    omega

theorem exists_of_readFirst {b : UInt8} {s : List UInt8} {c : Char} {taken : Nat}
    (h : readFirst b s = (some c, taken)) :
    ∃ l code, lead? b = some l ∧
      follow l.share l.following l.low l.high 0 s = (some code, taken) ∧ c = Char.ofNat code := by
  unfold readFirst at h
  split at h
  · simp at h
  · rename_i l hl
    split at h
    · rename_i code total hf
      cases h
      exact ⟨l, code, hl, hf, rfl⟩
    · simp at h

/-- The bytes that are taken for a character are those of the character. -/
theorem encodeChar_of_readFirst {b : UInt8} {s : List UInt8} {c : Char} {taken : Nat}
    (h : readFirst b s = (some c, taken)) : String.utf8EncodeChar c = b :: s.take taken := by
  obtain ⟨l, code, hl, hf, rfl⟩ := exists_of_readFirst h
  have hval (n : Nat) : (Char.ofNat n).val.toNat = (Char.ofNat n).toNat := rfl
  rcases lead?_eq_some hl with ⟨hn, hb, hshare⟩ | ⟨hn, hb, hmin, hmax, hlow, hhigh⟩ |
    ⟨hn, hb, hmax, hlow, hhigh, hfirst, hlast⟩ | ⟨hn, hb, hmax, hlow, hhigh, hfirst, hlast⟩
  · rw [hn] at hf
    obtain ⟨hcode, htaken⟩ := eq_of_follow_zero hf
    simp only [String.utf8EncodeChar, hval, toNat_ofNat_of_isValid (n := code) (by omega)]
    rw [if_pos (by omega), ofNat_eq (b := b) (by omega), htaken, List.take_zero]
  · rw [hn] at hf
    obtain ⟨b₁, rest, rfl, hl₁, hh₁, hf⟩ := exists_of_follow_succ hf
    obtain ⟨hcode, htaken⟩ := eq_of_follow_zero hf
    simp only [String.utf8EncodeChar, hval, toNat_ofNat_of_isValid (n := code) (by omega)]
    rw [if_neg (by omega), if_pos (by omega), ofNat_eq (b := b) (by omega),
      ofNat_eq (b := b₁) (by omega), htaken]
    rfl
  · rw [hn] at hf
    obtain ⟨b₁, rest, rfl, hl₁, hh₁, hf⟩ := exists_of_follow_succ hf
    obtain ⟨b₂, rest, rfl, hl₂, hh₂, hf⟩ := exists_of_follow_succ hf
    obtain ⟨hcode, htaken⟩ := eq_of_follow_zero hf
    simp only [String.utf8EncodeChar, hval, toNat_ofNat_of_isValid (n := code) (by omega)]
    rw [if_neg (by omega), if_neg (by omega), if_pos (by omega), ofNat_eq (b := b) (by omega),
      ofNat_eq (b := b₁) (by omega), ofNat_eq (b := b₂) (by omega), htaken]
    rfl
  · rw [hn] at hf
    obtain ⟨b₁, rest, rfl, hl₁, hh₁, hf⟩ := exists_of_follow_succ hf
    obtain ⟨b₂, rest, rfl, hl₂, hh₂, hf⟩ := exists_of_follow_succ hf
    obtain ⟨b₃, rest, rfl, hl₃, hh₃, hf⟩ := exists_of_follow_succ hf
    obtain ⟨hcode, htaken⟩ := eq_of_follow_zero hf
    simp only [String.utf8EncodeChar, hval, toNat_ofNat_of_isValid (n := code) (by omega)]
    rw [if_neg (by omega), if_neg (by omega), if_neg (by omega), ofNat_eq (b := b) (by omega),
      ofNat_eq (b := b₁) (by omega), ofNat_eq (b := b₂) (by omega), ofNat_eq (b := b₃) (by omega),
      htaken]
    rfl

/-- What is decoded was encoded so. -/
theorem encode_of_decode? {s : List UInt8} {t : List Char} (h : decode? s = some t) :
    encode t = s := by
  fun_induction decode? s generalizing t with
  | case1 =>
      cases h
      rfl
  | case2 b rest c taken hread ih =>
      obtain ⟨u, hu, rfl⟩ := Option.map_eq_some_iff.mp h
      have hbytes := encodeChar_of_readFirst hread
      rw [encode, List.flatMap_cons, hbytes, List.cons_append, ← encode, ih hu,
        List.take_append_drop]
  | case3 => cases h

theorem decode?_eq_some_iff {s : List UInt8} {t : List Char} : decode? s = some t ↔ s = encode t :=
  ⟨fun h => (encode_of_decode? h).symm, fun h => h ▸ decode?_encode t⟩

/-! ## ASCII -/

theorem encodeChar_of_ascii {c : Char} (hc : c.toNat < 0x80) :
    String.utf8EncodeChar c = [UInt8.ofNat c.toNat] := by
  simp only [String.utf8EncodeChar, show c.val.toNat = c.toNat from rfl]
  rw [if_pos (by omega)]

theorem toNat_of_ascii {c : Char} (hc : c.toNat < 0x80) :
    (UInt8.ofNat c.toNat).toNat = c.toNat := by
  rw [UInt8.toNat_ofNat']
  omega

theorem encode_append (s t : List Char) : encode (s ++ t) = encode s ++ encode t :=
  List.flatMap_append

theorem length_encode_of_ascii {s : List Char} (h : ∀ c ∈ s, c.toNat < 0x80) :
    (encode s).length = s.length := by
  induction s with
  | nil => rfl
  | cons c s ih =>
      obtain ⟨hc, hs⟩ := List.forall_mem_cons.mp h
      rw [encode, List.flatMap_cons, encodeChar_of_ascii hc, List.length_append, ← encode, ih hs,
        List.length_singleton, List.length_cons, Nat.add_comm]

/-! ## Beginnings -/

theorem eq_nil_of_encode_eq_nil {s : List Char} (h : encode s = []) : s = [] := by
  have hs := decode?_encode s
  rw [h] at hs
  simpa [decode?] using hs.symm

/-- Two beginnings of a text that have as many bytes are the same. -/
theorem eq_of_length_encode {s front front' : List Char} (hf : front <+: s) (hf' : front' <+: s)
    (h : (encode front).length = (encode front').length) : front = front' := by
  have hbegin {a b : List Char} (hab : a <+: b)
      (hlength : (encode a).length = (encode b).length) : a = b := by
    obtain ⟨more, rfl⟩ := hab
    rw [encode_append, List.length_append] at hlength
    have hmore : more = [] :=
      eq_nil_of_encode_eq_nil (List.length_eq_zero_iff.mp (by omega))
    rw [hmore, List.append_nil]
  rcases List.prefix_or_prefix_of_prefix hf hf' with hab | hba
  · exact hbegin hab h
  · exact (hbegin hba h.symm).symm

end LinkPreview.Text.Utf8
