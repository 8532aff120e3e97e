/-!
# Dates

A date of the Gregorian calendar, carried back before its introduction and on to the
years before the year one. The year zero is a leap year. Dates have a first and a last
year, so not every date has a next one.
-/

namespace LinkPreview

/-- Whether a year has a 29th of February. -/
def isLeapYear (year : Int) : Bool :=
  year % 4 == 0 && (year % 100 != 0 || year % 400 == 0)

/-- The number of days of a month. -/
def daysInMonth (year : Int) (month : Nat) : Nat :=
  match month with
  | 2 => if isLeapYear year then 29 else 28
  | 4 | 6 | 9 | 11 => 30
  | _ => 31

/-- The first year that dates have. -/
def firstYear : Int := -262143

/-- The last year that dates have. -/
def lastYear : Int := 262142

/-- Whether numbers are those of a date. -/
structure IsDate (year : Int) (month day : Nat) : Prop where
  firstYear_le : firstYear ≤ year
  le_lastYear : year ≤ lastYear
  one_le_month : 1 ≤ month
  month_le : month ≤ 12
  one_le_day : 1 ≤ day
  day_le : day ≤ daysInMonth year month

/-- Whether numbers make a date is decided by comparing them. -/
instance (year : Int) (month day : Nat) : Decidable (IsDate year month day) :=
  if h : (firstYear ≤ year ∧ year ≤ lastYear) ∧ (1 ≤ month ∧ month ≤ 12) ∧
      (1 ≤ day ∧ day ≤ daysInMonth year month) then
    .isTrue ⟨h.1.1, h.1.2, h.2.1.1, h.2.1.2, h.2.2.1, h.2.2.2⟩
  else
    .isFalse fun ⟨a, b, c, d, e, f⟩ => h ⟨⟨a, b⟩, ⟨c, d⟩, ⟨e, f⟩⟩

/-- A date. -/
structure Date where
  year : Int
  month : Nat
  day : Nat
  isDate : IsDate year month day
  deriving DecidableEq

namespace Date

/-- The date with the given numbers, if there is one. -/
def of? (year : Int) (month day : Nat) : Option Date :=
  if h : IsDate year month day then some ⟨year, month, day, h⟩ else none

/-- The day after a date. -/
def next? (d : Date) : Option Date :=
  if d.day < daysInMonth d.year d.month then of? d.year d.month (d.day + 1)
  else if d.month < 12 then of? d.year (d.month + 1) 1
  else of? (d.year + 1) 1 1

/-- The day before a date. -/
def previous? (d : Date) : Option Date :=
  if 1 < d.day then of? d.year d.month (d.day - 1)
  else if 1 < d.month then of? d.year (d.month - 1) (daysInMonth d.year (d.month - 1))
  else of? (d.year - 1) 12 31

end Date

end LinkPreview
