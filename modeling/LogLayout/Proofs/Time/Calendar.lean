import LogLayout.Time.Calendar
import Mathlib.Order.Monotone.Basic
import Mathlib.Tactic.IntervalCases

namespace LogLayout.Time

/-!
# Days and dates

Dates are counted from the first of March of the year 0, so that every leap day is the last
day of its year.  A day number is then cut into cycles of four hundred years, centuries, fours
of years, years and days, and back from a date the same parts are added up.  This module shows
that the date of a day number exists and has that number, and that the numbers of days follow
each other as the days do, from one day to the next and from one month to the next.
-/

namespace CivilDate

/-- The date is one of the calendar. -/
structure Exists (date : CivilDate) : Prop where
  month_pos : 1 ≤ date.month
  month_le : date.month ≤ 12
  day_pos : 1 ≤ date.day
  day_le : date.day ≤ daysInMonth date.year date.month

/-- The parts of a day number: a cycle of four hundred years, a century of it, a four of years
of that, a year of those, and a day of the year that begins in March. -/
structure Parts where
  cycle : Int
  century : Nat
  four : Nat
  single : Nat
  day : Nat

/-- The year, counted from March, of some parts. -/
def Parts.year (parts : Parts) : Int :=
  400 * parts.cycle + (100 * parts.century + 4 * parts.four + parts.single : Nat)

def Parts.number (parts : Parts) : Int :=
  146097 * parts.cycle +
    (36524 * parts.century + 1461 * parts.four + 365 * parts.single + parts.day : Nat) - daysToEpoch

/-- Parts that make up a day.  Only the last year of four has a leap day, and not in the last
four of a century, except for the last century of a cycle. -/
structure Parts.Proper (parts : Parts) : Prop where
  century_le : parts.century ≤ 3
  four_le : parts.four ≤ 24
  single_le : parts.single ≤ 3
  day_le : parts.day ≤ 365
  leap : parts.day = 365 →
    parts.single = 3 ∧ (parts.four = 24 → parts.century = 3)

/-- The month of a day of the year, both counted from March and from zero. -/
def monthOf (day : Nat) : Nat := (5 * day + 2) / 153

/-- The days of a year in front of a month, both counted from March. -/
def daysBefore (month : Nat) : Nat := (153 * month + 2) / 5

def Parts.date (parts : Parts) : CivilDate :=
  ⟨if monthOf parts.day < 10 then parts.year else parts.year + 1,
    if monthOf parts.day < 10 then monthOf parts.day + 3 else monthOf parts.day - 9,
    parts.day - daysBefore (monthOf parts.day) + 1⟩

/-- Every day number is cut into parts that make it up. -/
theorem exists_parts (number : Int) :
    ∃ parts : Parts, parts.Proper ∧ parts.number = number ∧ ofDayNumber number = parts.date := by
  obtain ⟨days, same⟩ : ∃ days, days = number + daysToEpoch := ⟨_, rfl⟩
  obtain ⟨dayOfCycle, inCycle⟩ : ∃ day, day = (days % 146097).toNat := ⟨_, rfl⟩
  obtain ⟨century, whichCentury⟩ : ∃ century, century = min 3 (dayOfCycle / 36524) := ⟨_, rfl⟩
  obtain ⟨dayOfCentury, inCentury⟩ : ∃ day, day = dayOfCycle - 36524 * century := ⟨_, rfl⟩
  obtain ⟨single, whichYear⟩ : ∃ year, year = min 3 (dayOfCentury % 1461 / 365) := ⟨_, rfl⟩
  refine ⟨⟨days / 146097, century, dayOfCentury / 1461, single,
    dayOfCentury % 1461 - 365 * single⟩, ⟨?_, ?_, ?_, ?_, ?_⟩, ?_, ?_⟩
  · dsimp only
    omega
  · dsimp only
    omega
  · dsimp only
    omega
  · dsimp only
    omega
  · dsimp only
    omega
  · dsimp only [Parts.number]
    omega
  · subst whichYear inCentury whichCentury inCycle same
    rfl

namespace Parts

variable {parts : Parts}

/-- The days in front of the month of a day do not go beyond that day, and the day is in the
next thirty-one. -/
theorem daysBefore_monthOf_le (day : Nat) : daysBefore (monthOf day) ≤ day := by
  unfold daysBefore monthOf
  omega

/-- The parts of a year's number tell its leap days. -/
theorem Proper.year_div (proper : parts.Proper) :
    365 * parts.year + parts.year / 4 - parts.year / 100 + parts.year / 400 =
      146097 * parts.cycle +
        (36524 * parts.century + 1461 * parts.four + 365 * parts.single : Nat) := by
  have century := proper.century_le
  have four := proper.four_le
  have single := proper.single_le
  unfold Parts.year
  omega

theorem Proper.dayNumber_date (proper : parts.Proper) : parts.date.dayNumber = parts.number := by
  have years := proper.year_div
  have before := daysBefore_monthOf_le parts.day
  have short := proper.day_le
  have month : monthOf parts.day ≤ 11 := by
    unfold monthOf
    omega
  unfold daysBefore at before
  unfold dayNumber Parts.date Parts.number daysBefore
  generalize monthOf parts.day = number at *
  generalize parts.year = year at *
  by_cases early : number < 10
  · simp only [early, if_true, if_neg (show ¬number + 3 ≤ 2 by omega), Nat.add_sub_cancel]
    omega
  · simp only [early, if_false, if_pos (show number - 9 ≤ 2 by omega),
      Int.add_sub_cancel, Nat.sub_add_cancel (show 9 ≤ number by omega)]
    omega

/-- The year after one with a day more has a leap day: it is the one that the day is in. -/
theorem Proper.isLeapYear (proper : parts.Proper) (leap : parts.day = 365) :
    isLeapYear (parts.year + 1) = true := by
  obtain ⟨single, lastFour⟩ := proper.leap leap
  have century := proper.century_le
  have four := proper.four_le
  have fourth : (parts.year + 1) % 4 = 0 := by
    unfold Parts.year
    omega
  have hundredth : (parts.year + 1) % 100 ≠ 0 ∨ (parts.year + 1) % 400 = 0 := by
    unfold Parts.year
    omega
  unfold LogLayout.Time.isLeapYear
  simpa only [Bool.and_eq_true, beq_iff_eq, Bool.or_eq_true, bne_iff_ne] using
    ⟨fourth, hundredth⟩

/-- The date of parts that make up a day exists. -/
theorem Proper.exists_date (proper : parts.Proper) : parts.date.Exists := by
  have short := proper.day_le
  obtain ⟨month, whichMonth⟩ : ∃ month, monthOf parts.day = month := ⟨_, rfl⟩
  have within : 153 * month ≤ 5 * parts.day + 2 ∧ 5 * parts.day + 2 < 153 * month + 153 := by
    unfold monthOf at whichMonth
    omega
  have month_le : month ≤ 11 := by omega
  have inYear : parts.date = ⟨if month < 10 then parts.year else parts.year + 1,
      if month < 10 then month + 3 else month - 9, parts.day - daysBefore month + 1⟩ := by
    rw [Parts.date, whichMonth]
  rw [inYear]
  refine ⟨?_, ?_, Nat.le_add_left 1 _, ?_⟩
  · dsimp only
    split <;> omega
  · dsimp only
    split <;> omega
  · dsimp only
    by_cases february : month = 11
    · subst february
      by_cases leap : parts.day = 365
      · rw [leap]
        simp [daysInMonth, proper.isLeapYear leap, daysBefore]
      · have shorter : parts.day - daysBefore 11 + 1 ≤ 28 := by
          unfold daysBefore
          omega
        simp only [daysInMonth]
        norm_num
        split <;> omega
    · have earlier : month ≤ 10 := by omega
      unfold daysInMonth daysBefore
      interval_cases month <;> norm_num <;> omega

end Parts

/-- A day number is the number of its date. -/
theorem dayNumber_ofDayNumber (number : Int) : (ofDayNumber number).dayNumber = number := by
  obtain ⟨parts, proper, same, date⟩ := exists_parts number
  rw [date, proper.dayNumber_date, same]

theorem exists_ofDayNumber (number : Int) : (ofDayNumber number).Exists := by
  obtain ⟨parts, proper, -, date⟩ := exists_parts number
  rw [date]
  exact proper.exists_date

/-! ## One day after the other -/

def next (date : CivilDate) : CivilDate :=
  if date.day < daysInMonth date.year date.month then ⟨date.year, date.month, date.day + 1⟩
  else if date.month < 12 then ⟨date.year, date.month + 1, 1⟩
  else ⟨date.year + 1, 1, 1⟩

/-- The days of the calendar are numbered one after the other, across the ends of months and
years. -/
theorem Exists.dayNumber_next {date : CivilDate} (dated : date.Exists) :
    date.next.dayNumber = date.dayNumber + 1 := by
  obtain ⟨month_pos, month_le, day_pos, day_le⟩ := dated
  rcases date with ⟨year, month, day⟩
  dsimp only at *
  unfold next
  dsimp only
  split
  next within =>
    simp only [dayNumber]
    omega
  next last =>
    have whole : day = daysInMonth year month := by omega
    subst whole
    unfold dayNumber daysInMonth isLeapYear
    interval_cases month <;> norm_num <;> try omega

/-! ## One month after the other -/

/-- The number of the first day of a month, all months of all years being counted in a row. -/
def monthStart (index : Int) : Int := dayNumber ⟨index / 12, (index % 12).toNat + 1, 1⟩

/-- The place of a date's month among all months. -/
def monthIndex (date : CivilDate) : Int := 12 * date.year + date.month - 1

/-- A month has between twenty-eight and thirty-one days. -/
theorem daysInMonth_range (year : Int) (month : Nat) :
    28 ≤ daysInMonth year month ∧ daysInMonth year month ≤ 31 := by
  unfold daysInMonth
  split
  · split <;> decide
  · split <;> decide

/-- A month begins where the last day of the month before has ended. -/
theorem monthStart_succ (index : Int) :
    monthStart (index + 1) =
      monthStart index + daysInMonth (index / 12) ((index % 12).toNat + 1) := by
  obtain ⟨year, whichYear⟩ : ∃ year, year = index / 12 := ⟨_, rfl⟩
  obtain ⟨month, whichMonth⟩ : ∃ month, month = (index % 12).toNat + 1 := ⟨_, rfl⟩
  have range := daysInMonth_range year month
  have last : Exists ⟨year, month, daysInMonth year month⟩ :=
    ⟨by dsimp only; omega, by dsimp only; omega, by dsimp only; omega, Nat.le_refl _⟩
  have following := last.dayNumber_next
  have begins :
      monthStart (index + 1) = (next ⟨year, month, daysInMonth year month⟩).dayNumber := by
    unfold monthStart next
    dsimp only
    rw [if_neg (Nat.lt_irrefl _)]
    split
    · rw [show (index + 1) / 12 = year by omega,
        show ((index + 1) % 12).toNat + 1 = month + 1 by omega]
    · rw [show (index + 1) / 12 = year + 1 by omega,
        show ((index + 1) % 12).toNat + 1 = 1 by omega]
  rw [begins, following, monthStart, ← whichYear, ← whichMonth]
  unfold dayNumber
  dsimp only
  omega

theorem monthStart_le {first second : Int} (le : first ≤ second) :
    monthStart first ≤ monthStart second := by
  refine monotone_int_of_le_succ (fun index => ?_) le
  rw [monthStart_succ]
  omega

theorem Exists.dayNumber_eq {date : CivilDate} (dated : date.Exists) :
    date.dayNumber = monthStart date.monthIndex + date.day - 1 := by
  have month_pos := dated.month_pos
  have month_le := dated.month_le
  rw [monthStart, monthIndex, show (12 * date.year + date.month - 1) / 12 = date.year by omega,
    show ((12 * date.year + date.month - 1) % 12).toNat + 1 = date.month by omega]
  unfold dayNumber
  dsimp only
  omega

/-- A date lies in front of the first of the next month. -/
theorem Exists.dayNumber_lt_monthStart {date : CivilDate} (dated : date.Exists) :
    date.dayNumber < monthStart (date.monthIndex + 1) := by
  have month_pos := dated.month_pos
  have month_le := dated.month_le
  have day_le := dated.day_le
  rw [dated.dayNumber_eq, monthStart_succ, monthIndex,
    show (12 * date.year + date.month - 1) / 12 = date.year by omega,
    show ((12 * date.year + date.month - 1) % 12).toNat + 1 = date.month by omega]
  omega

/-- The dates of the calendar follow each other as their numbers do: an earlier day has the lesser
year, or the lesser month of the same year, or the lesser day of the same month. -/
theorem Exists.before_of_dayNumber_lt {date other : CivilDate} (dated : date.Exists)
    (otherDated : other.Exists) (less : date.dayNumber < other.dayNumber) :
    date.year < other.year ∨ date.year = other.year ∧
      (date.month < other.month ∨ date.month = other.month ∧ date.day < other.day) := by
  have months : date.monthIndex ≤ other.monthIndex := by
    by_contra after
    have starts := monthStart_le (show other.monthIndex + 1 ≤ date.monthIndex by omega)
    have before := otherDated.dayNumber_lt_monthStart
    have counted := dated.dayNumber_eq
    have day_pos := dated.day_pos
    omega
  have month_pos := dated.month_pos
  have month_le := dated.month_le
  have other_pos := otherDated.month_pos
  have other_le := otherDated.month_le
  rcases Int.lt_or_eq_of_le months with earlier | same
  · unfold monthIndex at earlier
    omega
  · rw [dated.dayNumber_eq, otherDated.dayNumber_eq, same] at less
    unfold monthIndex at same
    omega

/-- Counting begins with the first of January 1970. -/
example : (⟨1970, 1, 1⟩ : CivilDate).dayNumber = 0 := by decide

end CivilDate
end LogLayout.Time
