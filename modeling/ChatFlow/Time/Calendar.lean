/-!
# The calendar

Dates of the proleptic Gregorian calendar and their day numbers, counted from the first of
January 1970.  Years are taken to begin in March, so that the leap day is the last day of its
year, and days are counted in cycles of four hundred years.
-/

namespace ChatFlow

/-- A date. -/
structure Date where
  /-- The year. -/
  year : Int
  /-- The month, from one to twelve. -/
  month : Nat
  /-- The day of the month, from one. -/
  day : Nat
deriving DecidableEq, Inhabited, Repr

namespace Date

/-- The days of four hundred years. -/
def cycleDays : Nat := 146097

/-- The days from the first of March of the year zero to the first of January 1970. -/
def epochDays : Nat := 719468

/-- The days before a year of a cycle, the years beginning in March. -/
def daysBeforeYear (year : Nat) : Nat :=
  365 * year + year / 4 - year / 100

/-- The days before a month, counted from March. -/
def daysBeforeMonth (month : Nat) : Nat :=
  (153 * month + 2) / 5

/-- The day number of a date. -/
def toDays (date : Date) : Int :=
  let year := if date.month ≤ 2 then date.year - 1 else date.year
  let month := if date.month ≤ 2 then date.month + 9 else date.month - 3
  let cycle := year.fdiv 400
  let yearOfCycle := (year.fmod 400).toNat
  cycle * cycleDays + daysBeforeYear yearOfCycle + daysBeforeMonth month + date.day - 1 -
    epochDays

/-- The date with a day number. -/
def ofDays (days : Int) : Date :=
  let shifted := days + epochDays
  let cycle := shifted.fdiv cycleDays
  let dayOfCycle := (shifted.fmod cycleDays).toNat
  let yearOfCycle :=
    (dayOfCycle - dayOfCycle / 1460 + dayOfCycle / 36524 - dayOfCycle / 146096) / 365
  let dayOfYear := dayOfCycle - daysBeforeYear yearOfCycle
  let month := (5 * dayOfYear + 2) / 153
  let day := dayOfYear - daysBeforeMonth month + 1
  let year := cycle * 400 + yearOfCycle
  { year := if month < 10 then year else year + 1
    month := if month < 10 then month + 3 else month - 9
    day }

end Date

end ChatFlow
