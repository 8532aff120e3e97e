import LinkPreview.Proofs.Json.Text

/-!
# What a written string says

`Says` tells, one piece after the other, which text a string says as it is written: a character
stands for itself, a letter behind a backslash for the character it names, and a code unit in four
hexadecimal digits, or two that are a pair, for the character with this code. `unescape?` finds
this text, and finds none where no piece fits.
-/

namespace LinkPreview.Json

open Text

/-- What is written between quotes, and the text that it says. -/
inductive Says : List Char → List Char → Prop where
  | nil : Says [] []
  | plain {c : Char} {w t : List Char} (hc : c ≠ '\\') (h : Says w t) : Says (c :: w) (c :: t)
  | letter {e c : Char} {w t : List Char} (he : escapedLetter? e = some c) (h : Says w t) :
      Says ('\\' :: e :: w) (c :: t)
  | unit {digits w t : List Char} {n : Nat} (hl : digits.length = 4)
      (hn : readNumeral? 16 digits = some n) (hs : n < 0xD800 ∨ 0xDFFF < n) (h : Says w t) :
      Says ('\\' :: 'u' :: (digits ++ w)) (Char.ofNat n :: t)
  | pair {high low w t : List Char} {n m : Nat} (hl : high.length = 4 ∧ low.length = 4)
      (hn : readNumeral? 16 high = some n) (hm : readNumeral? 16 low = some m)
      (hhigh : 0xD800 ≤ n ∧ n ≤ 0xDBFF) (hlow : 0xDC00 ≤ m ∧ m ≤ 0xDFFF) (h : Says w t) :
      Says ('\\' :: 'u' :: (high ++ '\\' :: 'u' :: (low ++ w)))
        (Char.ofNat (0x10000 + (n - 0xD800) * 0x400 + (m - 0xDC00)) :: t)

theorem ne_u_of_escapedLetter? {e c : Char} (h : escapedLetter? e = some c) : e ≠ 'u' := by
  rintro rfl
  cases h

theorem unescape?_pair {high low : List Char} {n m : Nat} (hl : high.length = 4 ∧ low.length = 4)
    (hn : readNumeral? 16 high = some n) (hm : readNumeral? 16 low = some m)
    (hhigh : 0xD800 ≤ n ∧ n ≤ 0xDBFF) (hlow : 0xDC00 ≤ m ∧ m ≤ 0xDFFF) (rest : List Char) :
    unescape? ('\\' :: 'u' :: (high ++ '\\' :: 'u' :: (low ++ rest))) =
      (unescape? rest).map
        (Char.ofNat (0x10000 + (n - 0xD800) * 0x400 + (m - 0xDC00)) :: ·) := by
  obtain ⟨a, b, c, d, rfl⟩ := exists_digits hl.1
  obtain ⟨e, f, g, h, rfl⟩ := exists_digits hl.2
  have hfirst : ¬ isLowSurrogate n = true := by
    rw [isLowSurrogate_iff]
    omega
  simp only [List.cons_append, List.nil_append, unescape?, hn, hm, Option.bind_eq_bind,
    Option.bind_some, if_neg hfirst, if_pos (isHighSurrogate_iff.mpr hhigh),
    if_pos (isLowSurrogate_iff.mpr hlow)]
  rw [Option.map_eq_bind]
  rfl

theorem says_of_unescape? {w t : List Char} (h : unescape? w = some t) : Says w t := by
  fun_induction unescape? w generalizing t with
  | case1 =>
      cases h
      exact .nil
  | case2 a b c d s ihPair ih =>
      simp only [Option.bind_eq_bind, Option.bind_eq_some_iff] at h
      obtain ⟨n, hn, h⟩ := h
      split at h
      · cases h
      · rename_i hlow
        rw [isLowSurrogate_iff] at hlow
        split at h
        -- the first code unit of a pair: the other one must follow
        · rename_i hhigh
          rw [isHighSurrogate_iff] at hhigh
          split at h
          · simp only [Option.bind_eq_some_iff] at h
            obtain ⟨m, hm, h⟩ := h
            split at h
            · rename_i hsecond
              simp only [Option.bind_eq_some_iff, Option.pure_def, Option.some.injEq] at h
              obtain ⟨u, hu, rfl⟩ := h
              exact .pair ⟨rfl, rfl⟩ hn hm hhigh (isLowSurrogate_iff.mp hsecond) (ihPair hu)
            · cases h
          · cases h
        · rename_i hhigh
          rw [isHighSurrogate_iff] at hhigh
          simp only [Option.bind_eq_some_iff, Option.pure_def, Option.some.injEq] at h
          obtain ⟨u, hu, rfl⟩ := h
          exact .unit rfl hn (by omega) (ih hu)
  | case3 e s _ ih =>
      simp only [Option.bind_eq_bind, Option.bind_eq_some_iff, Option.pure_def,
        Option.some.injEq] at h
      obtain ⟨c, hc, u, hu, rfl⟩ := h
      exact .letter hc (ih hu)
  | case4 => cases h
  | case5 c s _ hletter hend ih =>
      simp only [Option.bind_eq_bind, Option.bind_eq_some_iff, Option.pure_def,
        Option.some.injEq] at h
      obtain ⟨u, hu, rfl⟩ := h
      have hc : c ≠ '\\' := fun hc => by
        cases s with
        | nil => exact hend hc rfl
        | cons e s => exact hletter e s hc rfl
      exact .plain hc (ih hu)

/-- Reading a string finds exactly the text that it says. -/
theorem unescape?_eq_some_iff {w t : List Char} : unescape? w = some t ↔ Says w t := by
  refine ⟨says_of_unescape?, fun h => ?_⟩
  induction h with
  | nil => rfl
  | plain hc _ ih => rw [unescape?_plain hc, ih, Option.map_some]
  | letter he _ ih =>
      rw [unescape?_letter he (ne_u_of_escapedLetter? he), ih, Option.map_some]
  | unit hl hn hs _ ih => rw [unescape?_unit hl hn hs, ih, Option.map_some]
  | pair hl hn hm hhigh hlow _ ih =>
      rw [unescape?_pair hl hn hm hhigh hlow, ih, Option.map_some]

/-- Whether the bytes between the quotes of a string are a text that says the given one. -/
def IsSaid (written : List UInt8) (text : String) : Prop :=
  ∃ w, written = Utf8.encode w ∧ Says w text.toList

theorem textOf?_eq_some_iff {written : List UInt8} {text : String} :
    textOf? written = some text ↔ IsSaid written text := by
  simp only [textOf?, IsSaid, Option.bind_eq_bind, Option.bind_eq_some_iff, Option.pure_def,
    Option.some.injEq, Utf8.decode?_eq_some_iff, unescape?_eq_some_iff]
  constructor
  · rintro ⟨w, hw, t, ht, rfl⟩
    exact ⟨w, hw, by rwa [String.toList_ofList]⟩
  · rintro ⟨w, hw, ht⟩
    exact ⟨w, hw, text.toList, ht, String.ofList_toList⟩

end LinkPreview.Json
