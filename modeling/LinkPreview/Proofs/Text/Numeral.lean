import Mathlib.Algebra.Group.Nat.Defs
import Mathlib.Data.List.Induction
import Mathlib.Data.Nat.Digits.Defs
import LinkPreview.Proofs.Text.Character
import LinkPreview.Text.Numeral

/-!
# Reading written numerals

`readDigits?` takes the digits of a number back to this number, in every base that has
digits here. The value of a text is that of its parts: those in front count as often as the places
behind them tell, so zeros in front change nothing. In base ten, the texts that have a value are
those of decimal digits and no others.
-/

namespace LinkPreview.Text

variable {base : Nat}

theorem digitBelow?_digitChar {d : Nat} (hb : base ≤ 16) (hd : d < base) :
    digitBelow? base d.digitChar = some d := by
  have hv : ∀ d < 16, digitValue? (Nat.digitChar d) = some d := by decide
  simp only [digitBelow?, hv d (by omega), Option.filter_some, decide_eq_true_eq, hd, if_true]

theorem readDigits?_concat (s : List Char) (c : Char) :
    readDigits? base (s ++ [c]) =
      (do return base * (← readDigits? base s) + (← digitBelow? base c)) := by
  simp only [readDigits?, List.foldl_append, List.foldl_cons, List.foldl_nil]

/-- The digits of a number are read back as this number. -/
theorem readDigits?_toDigits (hl : 1 < base) (hb : base ≤ 16) (n : Nat) :
    readDigits? base (Nat.toDigits base n) = some n := by
  induction n using Nat.strongRecOn with
  | ind n ih =>
      rw [Nat.toDigits_eq_if hl]
      split
      · rename_i hn
        simp [readDigits?, digitBelow?_digitChar hb hn]
      · rename_i hn
        have hlt : n / base < n := Nat.div_lt_self (by omega) hl
        rw [readDigits?_concat, ih _ hlt, digitBelow?_digitChar hb (Nat.mod_lt n (by omega))]
        simp [Nat.div_add_mod]

/-! ## Values of parts -/

theorem digitBelow?_lt {c : Char} {d : Nat} (h : digitBelow? base c = some d) : d < base := by
  simp only [digitBelow?, Option.filter_eq_some_iff, decide_eq_true_eq] at h
  exact h.2

/-- The value of digits behind others. -/
theorem readDigits?_append (s t : List Char) :
    readDigits? base (s ++ t) =
      (do return (← readDigits? base s) * base ^ t.length + (← readDigits? base t)) := by
  induction t using List.reverseRecOn with
  | nil =>
      rw [List.append_nil]
      cases readDigits? base s <;> simp [show readDigits? base [] = some 0 from rfl]
  | append_singleton t c ih =>
      rw [← List.append_assoc, readDigits?_concat, readDigits?_concat, ih]
      cases readDigits? base s <;> cases readDigits? base t <;> cases digitBelow? base c <;>
        simp [Nat.mul_add, Nat.pow_succ, Nat.mul_left_comm, Nat.mul_comm, Nat.add_assoc]

theorem readDigits?_cons (c : Char) (s : List Char) :
    readDigits? base (c :: s) =
      (do return (← digitBelow? base c) * base ^ s.length + (← readDigits? base s)) := by
  rw [← List.singleton_append, readDigits?_append]
  simp [readDigits?]

theorem readDigits?_lt {s : List Char} {n : Nat} (h : readDigits? base s = some n) :
    n < base ^ s.length := by
  induction s generalizing n with
  | nil =>
      cases h
      exact Nat.one_pos
  | cons c s ih =>
      simp only [readDigits?_cons, Option.bind_eq_bind, Option.bind_eq_some_iff,
        Option.pure_def, Option.some.injEq] at h
      obtain ⟨d, hd, m, hm, rfl⟩ := h
      have hlt := ih hm
      calc
        d * base ^ s.length + m < d * base ^ s.length + base ^ s.length := by omega
        _ = (d + 1) * base ^ s.length := by rw [Nat.add_mul, Nat.one_mul]
        _ ≤ base * base ^ s.length := Nat.mul_le_mul_right _ (digitBelow?_lt hd)
        _ = base ^ (c :: s).length := by rw [List.length_cons, Nat.pow_succ, Nat.mul_comm]

theorem readDigits?_zeros (hl : 1 < base) (hb : base ≤ 16) (k : Nat) :
    readDigits? base (List.replicate k '0') = some 0 := by
  have hz : digitBelow? base '0' = some 0 := digitBelow?_digitChar hb (Nat.zero_lt_of_lt hl)
  induction k with
  | zero => rfl
  | succ k ih => simp [List.replicate_succ, readDigits?_cons, hz, ih]

/-! ## Decimal digits -/

theorem isDigit_of_digitBelow? {c : Char} {d : Nat} (h : digitBelow? 10 c = some d) :
    c.isDigit = true := by
  have hd := digitBelow?_lt h
  obtain ⟨hv, -⟩ := Option.filter_eq_some_iff.mp h
  unfold digitValue? at hv
  split at hv
  · rename_i hc
    simpa [Char.isDigit, Char.le_def] using hc
  -- the letters stand for ten and more
  · split at hv
    · rw [Option.some.injEq] at hv
      omega
    · split at hv
      · rw [Option.some.injEq] at hv
        omega
      · cases hv

theorem digitBelow?_of_isDigit {c : Char} (hc : c.isDigit = true) :
    digitBelow? 10 c = some (c.toNat - '0'.toNat) := by
  have hdigit : ∀ c : Char, c.toNat < 58 → 48 ≤ c.toNat →
      digitBelow? 10 c = some (c.toNat - 48) :=
    forall_of_toNat_lt (by decide)
  obtain ⟨hl, hu⟩ : 48 ≤ c.toNat ∧ c.toNat ≤ 57 := Char.isDigit_iff_toNat.mp hc
  exact hdigit c (Nat.lt_succ_of_le hu) hl

/-- Exactly the texts of decimal digits have a decimal value. -/
theorem exists_readDigits?_iff {s : List Char} :
    (∃ n, readDigits? 10 s = some n) ↔ ∀ c ∈ s, c.isDigit = true := by
  induction s with
  | nil => simp [readDigits?]
  | cons c s ih =>
      rw [List.forall_mem_cons, ← ih]
      constructor
      · rintro ⟨n, h⟩
        simp only [readDigits?_cons, Option.bind_eq_bind, Option.bind_eq_some_iff] at h
        obtain ⟨d, hd, m, hm, -⟩ := h
        exact ⟨isDigit_of_digitBelow? hd, m, hm⟩
      · rintro ⟨hc, m, hm⟩
        refine ⟨(c.toNat - '0'.toNat) * 10 ^ s.length + m, ?_⟩
        simp [readDigits?_cons, digitBelow?_of_isDigit hc, hm]

theorem readNumeral?_eq_some_iff {s : List Char} {n : Nat} :
    readNumeral? base s = some n ↔ s ≠ [] ∧ readDigits? base s = some n := by
  cases s <;> simp [readNumeral?]

theorem isDigit_of_readNumeral? {s : List Char} {n : Nat} (h : readNumeral? 10 s = some n) :
    ∀ c ∈ s, c.isDigit = true :=
  exists_readDigits?_iff.mp ⟨n, (readNumeral?_eq_some_iff.mp h).2⟩

/-- Whether a text is a decimal numeral, with leading zeros or without, that denotes this number. -/
def IsDecimal (digits : List Char) (n : Nat) : Prop :=
  digits ≠ [] ∧ (∀ c ∈ digits, c.isDigit = true) ∧
    n = Nat.ofDigits 10 (digits.reverse.map fun c => c.toNat - '0'.toNat)

theorem readDigits?_of_isDigit {s : List Char} (hs : ∀ c ∈ s, c.isDigit = true) :
    readDigits? 10 s = some (Nat.ofDigits 10 (s.reverse.map fun c => c.toNat - '0'.toNat)) := by
  -- the last digit is the one that counts least, so the induction is from the end
  induction s using List.reverseRecOn with
  | nil => rfl
  | append_singleton s c ih =>
      have hc : c.isDigit = true := hs c (by simp)
      rw [readDigits?_concat, ih fun d hd => hs d (by simp [hd]), digitBelow?_of_isDigit hc]
      simp [Nat.ofDigits_cons, Nat.add_comm]

/-- Exactly the decimal numerals are read, as the numbers that they denote. -/
theorem readNumeral?_eq_some_iff_isDecimal {s : List Char} {n : Nat} :
    readNumeral? 10 s = some n ↔ IsDecimal s n := by
  rw [readNumeral?_eq_some_iff, IsDecimal]
  refine and_congr_right fun _ => ?_
  constructor
  · intro h
    have hs := exists_readDigits?_iff.mp ⟨n, h⟩
    rw [readDigits?_of_isDigit hs] at h
    exact ⟨hs, (Option.some.inj h).symm⟩
  · rintro ⟨hs, rfl⟩
    exact readDigits?_of_isDigit hs

/-! ## Numerals of a given width -/

/-- A numeral is read back whatever zeros it was filled up with. -/
theorem readNumeral?_padLeft (hl : 1 < base) (hb : base ≤ 16) (width n : Nat) :
    readNumeral? base (padLeft width (Nat.toDigits base n)) = some n := by
  have hne : padLeft width (Nat.toDigits base n) ≠ [] := by
    simp [padLeft]
  refine readNumeral?_eq_some_iff.mpr ⟨hne, ?_⟩
  rw [padLeft, readDigits?_append, readDigits?_zeros hl hb, readDigits?_toDigits hl hb]
  simp

theorem length_padLeft (width : Nat) (digits : List Char) :
    (padLeft width digits).length = max width digits.length := by
  simp only [padLeft, List.length_append, List.length_replicate]
  omega

theorem length_padded {width n : Nat} (hw : 0 < width) (hn : n < 10 ^ width) :
    (padded width n).length = width := by
  have hl := (Nat.length_toDigits_le_iff (b := 10) (by decide) hw).mpr hn
  rw [padded, length_padLeft]
  omega

end LinkPreview.Text
