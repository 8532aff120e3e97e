import LinkPreview.Moment.Date
import LinkPreview.Text.Numeral

/-!
# Moments

A moment is a date and a time of day, both of Coordinated Universal Time, to the
nanosecond. Every minute may have a leap second as its sixty-first one.

Moments are written as RFC 3339 wants it: the letter `T` between the date and the time, no
more fraction digits than are needed out of none, three, six and nine, and `Z` at the
end. A year that four digits cannot tell has a sign.
-/

namespace LinkPreview

/-- A moment. -/
structure Moment where
  date : Date
  minute : Nat
  second : Nat
  nanosecond : Nat
  minute_lt : minute < 24 * 60
  second_le : second ≤ 60
  nanosecond_lt : nanosecond < 1000000000
  deriving DecidableEq

namespace Moment

open Text

/-- The moment with the given numbers, if there is one. -/
def of? (date : Date) (minute second nanosecond : Nat) : Option Moment :=
  if h : minute < 24 * 60 ∧ second ≤ 60 ∧ nanosecond < 1000000000 then
    some ⟨date, minute, second, nanosecond, h.1, h.2.1, h.2.2⟩
  else none

/-- The moment at which a clock shows the given time, if the clock is ahead by the given
minutes, less than a day. -/
def ofLocal? (date : Date) (minute second nanosecond : Nat) (ahead : Int) : Option Moment :=
  let total := (minute : Int) - ahead
  if total < 0 then do
    of? (← date.previous?) (total + 24 * 60).toNat second nanosecond
  else if total < 24 * 60 then of? date total.toNat second nanosecond
  else do of? (← date.next?) (total - 24 * 60).toNat second nanosecond

/-- A year in at least four digits, with a sign if four digits cannot tell it. -/
def writeYear (year : Int) : List Char :=
  if year < 0 then '-' :: padded 4 year.natAbs
  else if year ≤ 9999 then padded 4 year.natAbs
  else '+' :: padded 4 year.natAbs

/-- A fraction of a second in none, three, six or nine digits. -/
def writeFraction (nanosecond : Nat) : List Char :=
  if nanosecond = 0 then []
  else if nanosecond % 1000000 = 0 then '.' :: padded 3 (nanosecond / 1000000)
  else if nanosecond % 1000 = 0 then '.' :: padded 6 (nanosecond / 1000)
  else '.' :: padded 9 nanosecond

/-- A moment as it is written. -/
def write (m : Moment) : List Char :=
  writeYear m.date.year ++ '-' :: padded 2 m.date.month ++ '-' :: padded 2 m.date.day ++
    'T' :: padded 2 (m.minute / 60) ++ ':' :: padded 2 (m.minute % 60) ++
    ':' :: padded 2 m.second ++ writeFraction m.nanosecond ++ ['Z']

end Moment

end LinkPreview
