import LinkPreview.Proofs.Moment.Clock

/-!
# Reading written moments

Of the many forms in which a moment may stand, `Moment.write` uses one: every number has
its full width, nothing stands between the parts, and the zone is `Z`. What is written shows the
moment on a clock of universal time, so it is read back as the moment.
-/

namespace LinkPreview.Moment

open Text

/-- What a clock of universal time shows at a moment. -/
def clock (m : Moment) : Clock :=
  ⟨m.date.year, m.date.month, m.date.day, m.minute / 60, m.minute % 60, m.second, m.nanosecond, 0⟩

theorem readNumeral?_padded (width n : Nat) : readNumeral? 10 (padded width n) = some n :=
  readNumeral?_padLeft (by decide) (by decide) width n

theorem numberText_padded {width n : Nat} (hw : 0 < width) (hn : n < 10 ^ width) :
    NumberText width (padded width n) n :=
  ⟨(length_padded hw hn).le, readNumeral?_padded width n⟩

theorem yearText_writeYear (year : Int) : YearText (writeYear year) year := by
  rw [writeYear]
  split
  · have hyear : -(year.natAbs : Int) = year := by omega
    have hnegative := YearText.negative (readNumeral?_padded 4 year.natAbs)
    rwa [hyear] at hnegative
  · have hyear : (year.natAbs : Int) = year := by omega
    split
    · have hn : NumberText 4 (padded 4 year.natAbs) year.natAbs :=
        numberText_padded (by decide) (by omega)
      have hplain := YearText.plain hn
      rwa [hyear] at hplain
    · have hpositive := YearText.positive (readNumeral?_padded 4 year.natAbs)
      rwa [hyear] at hpositive

/-- So many digits behind a point tell whole nanoseconds of so many zeros. -/
theorem fractionText_padded (width : Nat) {n : Nat} (hw : 0 < width) (hl : width ≤ 9)
    (hn : n < 10 ^ 9) (hz : n % 10 ^ (9 - width) = 0) :
    FractionText ('.' :: padded width (n / 10 ^ (9 - width))) n := by
  have hpow : 10 ^ 9 = 10 ^ (9 - width) * 10 ^ width := by
    rw [← Nat.pow_add, Nat.sub_add_cancel hl]
  have hlt : n / 10 ^ (9 - width) < 10 ^ width :=
    Nat.div_lt_of_lt_mul (hpow ▸ hn)
  have hdigits := FractionText.digits (readNumeral?_padded width (n / 10 ^ (9 - width)))
  rwa [length_padded hw hlt, hpow, ← Nat.mul_assoc,
    Nat.div_mul_cancel (Nat.dvd_of_mod_eq_zero hz),
    Nat.mul_div_cancel _ (Nat.pow_pos (by decide))] at hdigits

theorem fractionText_writeFraction {n : Nat} (hn : n < 1000000000) :
    FractionText (writeFraction n) n := by
  rw [writeFraction]
  split
  · rename_i h
    rw [h]
    exact .none
  · split
    · rename_i h
      exact fractionText_padded 3 (by decide) (by decide) hn h
    · split
      · rename_i h
        exact fractionText_padded 6 (by decide) (by decide) hn h
      · simpa using fractionText_padded 9 (by decide) (by decide) hn (Nat.mod_one n)

/-- What is written of a moment shows the moment on a clock of universal time. -/
theorem shows_write (m : Moment) : Shows m.write m.clock := by
  have hday := m.date.isDate.day_le
  have hdays : daysInMonth m.date.year m.date.month ≤ 31 := by
    unfold daysInMonth
    split <;> (try split) <;> decide
  have hmonth := m.date.isDate.month_le
  have hminute := m.minute_lt
  have hsecond := m.second_le
  have hnumber {n : Nat} (hn : n < 100) (rest : List Char) :
      Begins (NumberText 2) (padded 2 n ++ rest) n rest :=
    .of_part (numberText_padded (by decide) hn) rest
  have hmark (mark : Char) (rest : List Char) : Begins (Mark mark) (mark :: rest) () rest :=
    .of_part (show Mark mark [mark] () from rfl) rest
  have hzulu : ZoneText ['Z'] 0 := .zulu (.inl rfl)
  simp only [write, List.append_assoc, List.cons_append]
  exact .intro (.of_part (yearText_writeYear _) _) (hmark _ _) (hnumber (by omega) _)
    (hmark _ _) (hnumber (by omega) _) (by simp) (hnumber (by omega) _) (hmark _ _)
    (hnumber (by omega) _) (hmark _ _) (hnumber (by omega) _)
    (fractionText_writeFraction m.nanosecond_lt) (.of_part hzulu []) (by simp)

theorem moment?_clock (m : Moment) : m.clock.moment? = some m := by
  have hdate : Date.of? m.date.year m.date.month m.date.day = some m.date := by
    simp [Date.of?, m.date.isDate]
  have hof : of? m.date m.minute m.second m.nanosecond = some m := by
    rw [of?, dif_pos ⟨m.minute_lt, m.second_le, m.nanosecond_lt⟩]
  have hminute := m.minute_lt
  have hsplit : m.minute / 60 * 60 + m.minute % 60 = m.minute := by omega
  have hlocal : ofLocal? m.date m.minute m.second m.nanosecond 0 = some m := by
    simp only [ofLocal?, Int.sub_zero]
    rw [if_neg (by omega), if_pos (by omega), Int.toNat_natCast, hof]
  have hclock : m.clock.hour < 24 ∧ m.clock.minute < 60 := by
    simp only [clock]
    omega
  simp only [Clock.moment?, if_pos hclock]
  simp only [clock, hdate, hsplit, hlocal, Option.bind_eq_bind, Option.bind_some]

/-- A moment is read back as it was written. -/
theorem read?_write (m : Moment) : read? m.write = some m :=
  read?_eq_some_iff.mpr ⟨m.clock, shows_write m, moment?_clock m⟩

end LinkPreview.Moment
