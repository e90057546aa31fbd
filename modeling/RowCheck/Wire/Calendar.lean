import RowCheck.Wire.Clock

/-!
# Dates and points in time

Days of the Gregorian calendar, extended to all years, counted from the first of January 2000, and
the texts of dates and of points in time.
-/

namespace RowCheck.Wire

/-- A day of the calendar. -/
structure Date where
  year : Int
  month : Nat
  day : Nat
  deriving DecidableEq, Repr

namespace Date

/-- The day `n` days after the first of January 2000. Years are counted from March on, so that a
leap day is the last day of its year, in cycles of 400 years. -/
def ofDayNumber (n : Int) : Date :=
  let z := n + 730425
  let cycle := z / 146097
  let dayOfCycle := (z % 146097).toNat
  let yearOfCycle :=
    (dayOfCycle - dayOfCycle / 1460 + dayOfCycle / 36524 - dayOfCycle / 146096) / 365
  let dayOfYear := dayOfCycle - (365 * yearOfCycle + yearOfCycle / 4 - yearOfCycle / 100)
  let marchMonth := (5 * dayOfYear + 2) / 153
  let day := dayOfYear - (153 * marchMonth + 2) / 5 + 1
  let month := if marchMonth < 10 then marchMonth + 3 else marchMonth - 9
  let year := cycle * 400 + yearOfCycle
  ⟨if month ≤ 2 then year + 1 else year, month, day⟩

/-- How many days after the first of January 2000 a day is. -/
def dayNumber (d : Date) : Int :=
  let year := if d.month ≤ 2 then d.year - 1 else d.year
  let yearOfCycle := (year % 400).toNat
  let marchMonth := if 2 < d.month then d.month - 3 else d.month + 9
  let dayOfYear := (153 * marchMonth + 2) / 5 + d.day - 1
  let dayOfCycle := yearOfCycle * 365 + yearOfCycle / 4 - yearOfCycle / 100 + dayOfYear
  year / 400 * 146097 + dayOfCycle - 730425

/-- The years for which dates are shown. -/
def inRange (d : Date) : Bool := decide (-262143 ≤ d.year ∧ d.year ≤ 262142)

/-- The year in at least four digits, with a sign outside of the years 0 to 9999. -/
def yearChars (year : Int) : List Char :=
  (if year < 0 then ['-'] else if 9999 < year then ['+'] else []) ++ Text.padded 4 year.natAbs

/-- The text of a date: year, month and day. -/
def chars (d : Date) : List Char :=
  yearChars d.year ++ '-' :: Text.padded 2 d.month ++ '-' :: Text.padded 2 d.day

end Date

/-- A point in time: a day, the whole seconds since it began, and the nanoseconds beyond them. -/
structure Moment where
  date : Date
  seconds : Nat
  nanos : Nat
  deriving DecidableEq, Repr

namespace Moment

/-- The point in time some microseconds after the first of January 2000 began. -/
def ofMicros (micros : Int) : Moment :=
  let seconds := micros / 1000000
  { date := .ofDayNumber (seconds / 86400)
    seconds := (seconds % 86400).toNat
    nanos := (micros % 1000000).toNat * 1000 }

/-- The text of the time of day. Nothing below a microsecond is shown. -/
def timeChars (m : Moment) : List Char := clockChars (m.seconds * 1000000 + m.nanos / 1000)

end Moment

/-- The text of a date, given by its day number, if it is in range. -/
def dateChars? (days : Int) : Option (List Char) :=
  let d := Date.ofDayNumber days
  if d.inRange then some d.chars else none

/-- The text of a point in time, given in microseconds since the first of January 2000, if it is
in range. -/
def timestampChars? (micros : Int) : Option (List Char) :=
  let m := Moment.ofMicros micros
  if m.date.inRange then some (m.date.chars ++ ' ' :: m.timeChars) else none

end RowCheck.Wire
