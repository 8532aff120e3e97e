import LinkPreview.Proofs.Moment.Reading

/-!
# The instant that a text denotes

An instant is a minute, counted in the days of the calendar, and the nanoseconds that are over
within it. Two seconds of one minute are so told apart even when one of them is a leap second. What
a clock shows becomes an instant by taking off how far the clock is ahead, and to read a moment is
to find the moment at this instant: passing the end of a day, of a month or of a year changes the
date by one day of the calendar and no more.
-/

namespace LinkPreview

/-! ## Days of the calendar -/

/-- The days of all years from the year zero on that come before a year. -/
def daysBeforeYear (year : Int) : Int :=
  365 * year + (year + 3) / 4 - (year + 99) / 100 + (year + 399) / 400

/-- The days of all months of a year that come before a month. -/
def daysBeforeMonth (year : Int) : Nat → Nat
  | 0 | 1 => 0
  | month + 2 => daysBeforeMonth year (month + 1) + daysInMonth year (month + 1)

namespace Date

/-- The days of the calendar up to a date. -/
def dayNumber (d : Date) : Int :=
  daysBeforeYear d.year + (daysBeforeMonth d.year d.month + d.day : Nat)

end Date

namespace Moment

/-! ## Instants -/

/-- A minute of universal time, counted in the days of the calendar, and the nanoseconds that are
over within it. -/
structure Instant where
  minute : Int
  nanosecond : Nat
  deriving DecidableEq

/-- The instant of a moment. -/
def instant (m : Moment) : Instant :=
  ⟨m.date.dayNumber * (24 * 60) + m.minute, m.second * 10 ^ 9 + m.nanosecond⟩

/-- The instant at which a clock shows what it shows. -/
def Clock.instant (c : Clock) : Instant :=
  ⟨(daysBeforeYear c.year + (daysBeforeMonth c.year c.month + c.day : Nat)) * (24 * 60) +
    (c.hour * 60 + c.minute : Nat) - c.ahead, c.second * 10 ^ 9 + c.nanosecond⟩

/-- A text denotes an instant if it shows a clock that shows this at the instant. -/
def Denotes (s : List Char) (i : Instant) : Prop :=
  ∃ clock, Shows s clock ∧ clock.instant = i

/-- A text denotes one instant at most. -/
theorem Denotes.unique {s : List Char} {i i' : Instant} (h : Denotes s i) (h' : Denotes s i') :
    i = i' := by
  obtain ⟨clock, hclock, rfl⟩ := h
  obtain ⟨clock', hclock', rfl⟩ := h'
  rw [hclock.unique hclock']

example : (read? "2025-01-01 00:30:60.5 +01:00".toList).map write =
    some "2024-12-31T23:30:60.500Z".toList := by decide +kernel

end Moment

end LinkPreview
