import LinkPreview.Text.Blank

/-!
# Characters and their numbers

The classes of characters that matter here are ranges of ASCII. What is said of all characters below
a bound is therefore checked number by number, and behind the capitals no character has another
small letter than itself.
-/

namespace LinkPreview.Text

variable {c : Char}

/-- What holds of each number below a bound holds of all characters whose numbers are below it. -/
theorem forall_of_toNat_lt {P : Char → Prop} {n : Nat} (h : ∀ i < n, P (Char.ofNat i)) (c : Char)
    (hc : c.toNat < n) : P c := by
  have hnumber := h c.toNat hc
  rwa [Char.ofNat_toNat] at hnumber

theorem toNat_lt_of_isAlphanum (hc : c.isAlphanum = true) : c.toNat < 0x80 := by
  -- each of the three classes is a range, and the largest end of them is that of `z`
  rcases Bool.or_eq_true_iff.mp hc with hc | hc
  · rcases Bool.or_eq_true_iff.mp hc with hc | hc
    · have hupper : c.toNat ≤ 'Z'.toNat := (of_decide_eq_true hc).2
      exact Nat.lt_of_le_of_lt hupper (by decide)
    · have hlower : c.toNat ≤ 'z'.toNat := of_decide_eq_true (Bool.and_eq_true_iff.mp hc).2
      exact Nat.lt_of_le_of_lt hlower (by decide)
  · have hdigit : c.toNat ≤ '9'.toNat := (Char.isDigit_iff_toNat.mp hc).2
    exact Nat.lt_of_le_of_lt hdigit (by decide)

/-! ## Case -/

/-- Behind the capitals, a character has no other small letter than itself. -/
theorem toLower_of_lt (h : 'Z'.toNat < c.toNat) : c.toLower = c := by
  have hcapital : ¬(c.val ≥ 'A'.val ∧ c.val ≤ 'Z'.val) := by
    rintro ⟨-, hz⟩
    exact Nat.not_le_of_lt h (UInt32.le_iff_toNat_le.mp hz)
  delta Char.toLower
  rw [dif_neg hcapital]

theorem toNat_toLower_lt : ∀ c : Char, c.toNat < 0x80 → c.toLower.toNat < 0x80 :=
  forall_of_toNat_lt (by decide)

theorem isAlpha_of_toLower (h : c.toLower.isAlpha = true) : c.isAlpha = true := by
  have hascii : ∀ c : Char, c.toNat < 0x80 → c.toLower.isAlpha = true → c.isAlpha = true :=
    forall_of_toNat_lt (by decide)
  by_cases hc : c.toNat < 0x80
  · exact hascii c hc h
  · have hlt : 'Z'.toNat < c.toNat := Nat.lt_of_lt_of_le (by decide) (Nat.le_of_not_lt hc)
    rwa [toLower_of_lt hlt] at h

end LinkPreview.Text
