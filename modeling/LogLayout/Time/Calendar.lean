import LogLayout.Text.Decimal
import LogLayout.Time.Instant

namespace LogLayout.Time

/-!
The proleptic Gregorian calendar.

Days are numbered from the first of January 1970.  Inside, a year is counted
from March, so that a leap day is the last day of its year and of its four,
hundred and four hundred years.
-/

/-- A day of the proleptic Gregorian calendar; the year 0 comes before the year
1. -/
structure CivilDate where
  year : Int
  month : Nat
  day : Nat
  deriving DecidableEq, Repr

/-- Whether a year has a leap day. -/
def isLeapYear (year : Int) : Bool :=
  year % 4 == 0 && (year % 100 != 0 || year % 400 == 0)

def daysInMonth (year : Int) (month : Nat) : Nat :=
  if month = 2 then (if isLeapYear year then 29 else 28)
  else if month = 4 ∨ month = 6 ∨ month = 9 ∨ month = 11 then 30
  else 31

namespace CivilDate

/-- The days from the first of March of the year 0 to the first of January 1970. -/
def daysToEpoch : Int := 719468

/-- The number of a date's day. -/
def dayNumber (date : CivilDate) : Int :=
  let year := if date.month ≤ 2 then date.year - 1 else date.year
  let month := if date.month ≤ 2 then date.month + 9 else date.month - 3
  let dayOfYear : Int := (153 * month + 2) / 5 + date.day - 1
  365 * year + year / 4 - year / 100 + year / 400 + dayOfYear - daysToEpoch

/-- The date of a day number.  The last of the four centuries of a cycle, and
the last year of four, may have a day more than the others, hence the two
minima. -/
def ofDayNumber (number : Int) : CivilDate :=
  let days := number + daysToEpoch
  let cycle := days / 146097
  let dayOfCycle := (days % 146097).toNat
  let century := min 3 (dayOfCycle / 36524)
  let dayOfCentury := dayOfCycle - 36524 * century
  let four := dayOfCentury / 1461
  let dayOfFour := dayOfCentury % 1461
  let single := min 3 (dayOfFour / 365)
  let dayOfYear := dayOfFour - 365 * single
  let month := (5 * dayOfYear + 2) / 153
  let year : Int := 400 * cycle + (100 * century + 4 * four + single : Nat)
  ⟨if month < 10 then year else year + 1,
    if month < 10 then month + 3 else month - 9,
    dayOfYear - (153 * month + 2) / 5 + 1⟩

/-- The place of a date in its year, counted from one. -/
def dayOfYear (date : CivilDate) : Nat :=
  (date.dayNumber - dayNumber ⟨date.year, 1, 1⟩ + 1).toNat

end CivilDate

/-- The day of the week of a day number, Sunday being zero. -/
def weekday (number : Int) : Nat := ((number + 4) % 7).toNat

/-- A reading of a clock that runs `offset` seconds ahead of universal time. -/
structure LocalTime where
  dayNumber : Int
  secondOfDay : Nat
  nanos : Nat
  offset : Int
  deriving DecidableEq, Repr

namespace LocalTime

/-- What a clock with a given offset shows at an instant. -/
def ofInstant (offset : Int) (instant : Instant) : LocalTime :=
  let shown := instant.seconds + offset
  ⟨shown / 86400, (shown % 86400).toNat, instant.nanos, offset⟩

def date (time : LocalTime) : CivilDate := .ofDayNumber time.dayNumber

/-- The hour, from 0 to 23. -/
def hour (time : LocalTime) : Nat := time.secondOfDay / 3600

/-- The hour on a dial of twelve, from 1 to 12. -/
def hourOfHalfDay (time : LocalTime) : Nat := (time.hour + 11) % 12 + 1

/-- The minute, from 0 to 59. -/
def minute (time : LocalTime) : Nat := time.secondOfDay / 60 % 60

/-- The second, from 0 to 59, or 60 in a leap second. -/
def second (time : LocalTime) : Nat := time.secondOfDay % 60 + time.nanos / 1000000000

/-- The nanoseconds within the second. -/
def fraction (time : LocalTime) : Nat := time.nanos % 1000000000

end LocalTime

def monthNames : List String :=
  ["January", "February", "March", "April", "May", "June", "July", "August",
    "September", "October", "November", "December"]

/-- The English names of the days of the week, Sunday first. -/
def weekdayNames : List String :=
  ["Sunday", "Monday", "Tuesday", "Wednesday", "Thursday", "Friday", "Saturday"]

/-- The first three letters of a name. -/
def shortName (name : String) : String := String.ofList (name.toList.take 3)

end LogLayout.Time
