import LinkPreview.Moment.Basic
import LinkPreview.Text.Blank

/-!
# Reading moments

Moments are read in more forms than they are written in: blanks may stand around the
parts, digits may be missing in front, a blank may stand for the `T`, and the time may be
that of a zone, given by how far its clocks are ahead. A fraction may have any number of
digits, of which nine count.
-/

namespace LinkPreview.Moment

open Text

/-- Skips the blanks at the front. -/
def skipBlanks (s : List Char) : List Char :=
  s.dropWhile isBlank

/-- Reads digits, of which there must be one and at most `limit` are taken. -/
def readDigits? (limit : Nat) (s : List Char) : Option (List Char × List Char) :=
  match (s.takeWhile Char.isDigit).take limit with
  | [] => none
  | digits => some (digits, s.drop digits.length)

/-- Reads a number of at most `limit` digits behind any blanks. -/
def readNumber? (limit : Nat) (s : List Char) : Option (Nat × List Char) := do
  let (digits, s) ← readDigits? limit (skipBlanks s)
  return (← readNumeral? 10 digits, s)

/-- Reads a year: four digits at most, or any number of them behind a sign. -/
def readYear? (s : List Char) : Option (Int × List Char) := do
  match skipBlanks s with
  | '-' :: s => do
    let (digits, s) ← readDigits? s.length s
    return (-(← readNumeral? 10 digits), s)
  | '+' :: s => do
    let (digits, s) ← readDigits? s.length s
    return (← readNumeral? 10 digits, s)
  | s => do
    let (n, s) ← readNumber? 4 s
    return (n, s)

/-- Reads a mark behind any blanks. -/
def readMark? (mark : Char) (s : List Char) : Option (List Char) :=
  dropStart? [mark] (skipBlanks s)

/-- Reads the letter or the blank between a date and a time. -/
def readSeparator? : List Char → Option (List Char)
  | 'T' :: s | 't' :: s | ' ' :: s => some s
  | _ => none

/-- Reads a fraction of a second in nanoseconds, if there is one. -/
def readFraction? : List Char → Option (Nat × List Char)
  | '.' :: s => do
    let (digits, rest) ← readDigits? s.length s
    let counting := digits.take 9
    let nanoseconds := counting ++ List.replicate (9 - counting.length) '0'
    return (← readNumeral? 10 nanoseconds, rest)
  | s => some (0, s)

/-- Reads how far the clocks of a zone are ahead, in minutes. -/
def readAhead? (s : List Char) : Option (Int × List Char) := do
  let (isBehind, s) ← match s with
    | '+' :: s => some (false, s)
    | '-' :: s | '\u2212' :: s => some (true, s)
    | _ => none
  let (hours, s) ← readPair? s
  let (minutes, s) ← readPair? (s.dropWhile fun c => c == ':' || isBlank c)
  if minutes < 60 ∧ hours < 24 then
    let total : Int := hours * 60 + minutes
    return (if isBehind then -total else total, s)
  else none
where
  readPair? : List Char → Option (Nat × List Char)
    | a :: b :: s => do return (← readNumeral? 10 [a, b], s)
    | _ => none

/-- Reads a zone: `UTC` or `Z` in any case of its letters, or how far it is ahead. -/
def readZone? (s : List Char) : Option (Int × List Char) :=
  match dropStartIgnoringCase? "utc".toList s with
  | some rest => some (0, rest)
  | none =>
    match s with
    | 'Z' :: rest | 'z' :: rest => some (0, rest)
    | s => readAhead? s

/-- Reads a text that is a moment. -/
def read? (s : List Char) : Option Moment := do
  let (year, s) ← readYear? s
  let (month, s) ← readNumber? 2 (← readMark? '-' s)
  let (day, s) ← readNumber? 2 (← readMark? '-' s)
  let (hour, s) ← readNumber? 2 (← readSeparator? s)
  let (minute, s) ← readNumber? 2 (← readMark? ':' s)
  let (second, s) ← readNumber? 2 (← readMark? ':' s)
  let (nanosecond, s) ← readFraction? s
  let (ahead, s) ← readZone? (skipBlanks s)
  let date ← Date.of? year month day
  if skipBlanks s = [] ∧ hour < 24 ∧ minute < 60 then
    ofLocal? date (hour * 60 + minute) second nanosecond ahead
  else none

end LinkPreview.Moment
