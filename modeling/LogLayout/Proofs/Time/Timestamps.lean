import LogLayout.Proofs.Text.Decimal
import LogLayout.Proofs.Text.Runs
import LogLayout.Proofs.Time.Calendar
import LogLayout.Time.Timestamp
import Mathlib.Data.List.TakeWhile

namespace LogLayout.Time

/-!
# Reading timestamps after RFC 3339

A timestamp shows what a clock with some offset shows at an instant: a year of four digits, a
month, a day, hours, minutes and seconds of two, a fraction of any length, and the offset.
`Timestamp.Writes` says this of a text, from the side of the clock.  The reader goes the
other way, from the date back to the number of its day, and comes to the same instant.
-/

/-! ## Instants -/

/-- An instant as clocks have it: only the last second of a minute can be a leap second. -/
structure Instant.Proper (instant : Instant) : Prop where
  nanos_lt : instant.nanos < 2000000000
  leap : 1000000000 ≤ instant.nanos → instant.seconds % 60 = 59

namespace Instant

/-- The nanoseconds since the start of 1970, those of a leap second counted on. -/
def nanosSinceEpoch (instant : Instant) : Int := instant.seconds * 1000000000 + instant.nanos

/-- The instant with nanoseconds beyond a second counted into the next one, unless they are
those of a leap second at the end of a minute. -/
def settled (instant : Instant) : Instant :=
  if 1000000000 ≤ instant.nanos ∧ instant.seconds % 60 ≠ 59 then
    ⟨instant.seconds + 1, instant.nanos - 1000000000⟩
  else instant

theorem Proper.settled_eq {instant : Instant} (proper : instant.Proper) :
    instant.settled = instant :=
  if_neg fun both => both.2 (proper.leap both.1)

theorem nanosSinceEpoch_settled (instant : Instant) :
    instant.settled.nanosSinceEpoch = instant.nanosSinceEpoch := by
  unfold settled
  split
  · unfold nanosSinceEpoch
    dsimp only
    omega
  · rfl

end Instant

/-- An offset is a whole number of minutes, less than a day. -/
structure WholeMinutes (offset : Int) : Prop where
  minutes : offset % 60 = 0
  short : offset.natAbs < 86400

namespace Timestamp

/-! ## What timestamps look like -/

/-- A text writes an offset: a letter for universal time, or a sign with hours and minutes. -/
inductive WritesOffset : Int → List Char → Prop
  | universal : WritesOffset 0 ['Z']
  | universalLower : WritesOffset 0 ['z']
  | east (hours minutes : Nat) (hours_le : hours ≤ 23) (minutes_le : minutes ≤ 59) :
    WritesOffset (hours * 3600 + minutes * 60)
      ('+' :: ((Text.zeroPadded 2 hours).toList ++ ':' :: (Text.zeroPadded 2 minutes).toList))
  | west (hours minutes : Nat) (hours_le : hours ≤ 23) (minutes_le : minutes ≤ 59) :
    WritesOffset (-(hours * 3600 + minutes * 60))
      ('-' :: ((Text.zeroPadded 2 hours).toList ++ ':' :: (Text.zeroPadded 2 minutes).toList))

/-- A text writes a fraction of a second, in nanoseconds: nothing, or a point and at least one
digit, of which the first nine count. -/
inductive WritesFraction : Nat → List Char → Prop
  | none : WritesFraction 0 []
  | digits {nanos : Nat} {digits : List Char} (nonempty : digits ≠ [])
    (decimal : ∀ digit ∈ digits, digit.isDigit = true)
    (shown : digits.take 9 ++ List.replicate (9 - digits.length) '0' =
      (Text.zeroPadded 9 nanos).toList) : WritesFraction nanos ('.' :: digits)

/-- What a clock shows down to the second, in front of some characters. -/
def clockChars (time : LocalTime) (separator : Char) (behind : List Char) : List Char :=
  (Text.zeroPadded 4 time.date.year.toNat).toList ++ '-' ::
    ((Text.zeroPadded 2 time.date.month).toList ++ '-' ::
      ((Text.zeroPadded 2 time.date.day).toList ++ separator ::
        ((Text.zeroPadded 2 time.hour).toList ++ ':' ::
          ((Text.zeroPadded 2 time.minute).toList ++ ':' ::
            ((Text.zeroPadded 2 time.second).toList ++ behind)))))

/-- The year has four digits. -/
def FourDigitYear (time : LocalTime) : Prop := 0 ≤ time.date.year ∧ time.date.year ≤ 9999

/-- A text writes an instant after RFC 3339: it is what a clock with some offset shows, with a
letter or a space between date and time. -/
inductive Writes (instant : Instant) : List Char → Prop
  | shows {offset : Int} {zone fraction : List Char} {separator : Char}
    (proper : instant.Proper) (year : FourDigitYear (.ofInstant offset instant))
    (separated : separator ∈ ['T', 't', ' '])
    (fractionWritten : WritesFraction instant.fraction fraction)
    (offsetWritten : WritesOffset offset zone) :
    Writes instant (clockChars (.ofInstant offset instant) separator (fraction ++ zone))

/-! ## Reading the parts -/

theorem dropBlanks_cons {first : Char} (visible : Text.isBlank first = false) (rest : List Char) :
    Text.dropBlanks (first :: rest) = first :: rest :=
  List.dropWhile_cons_of_neg (by rw [visible]; exact Bool.false_ne_true)

theorem readDigits_append {digits : List Char} (nonempty : digits ≠ [])
    (decimal : ∀ digit ∈ digits, digit.isDigit = true) (rest : List Char) :
    readDigits digits.length (digits ++ rest) = some (Text.digitsValue digits, rest) := by
  have taken : digits.takeWhile Char.isDigit = digits := List.takeWhile_eq_self_iff.mpr decimal
  simp only [readDigits, List.take_left, taken, List.isEmpty_iff, nonempty, if_false,
    List.drop_left]

theorem readNumber_zeroPadded {width number : Nat} (positive : 0 < width)
    (fits : number < 10 ^ width) (rest : List Char) :
    readNumber width ((Text.zeroPadded width number).toList ++ rest) = some (number, rest) := by
  obtain ⟨first, others, begins, digit⟩ := Text.exists_cons_zeroPadded positive fits
  have read := readDigits_append (by rw [begins]; exact List.cons_ne_nil _ _)
    (@Text.isDigit_of_mem_zeroPadded width number) rest
  rw [Text.length_zeroPadded positive fits, Text.digitsValue_zeroPadded] at read
  rw [readNumber, ← read, begins, List.cons_append,
    dropBlanks_cons (Text.isBlank_of_isDigit digit)]

theorem readYear_zeroPadded {year : Nat} (fits : year < 10 ^ 4) (rest : List Char) :
    readYear ((Text.zeroPadded 4 year).toList ++ rest) = some ((year : Int), rest) := by
  have number := readNumber_zeroPadded (by decide) fits rest
  obtain ⟨first, others, begins, digit⟩ := Text.exists_cons_zeroPadded (by decide) fits
  rw [begins, List.cons_append] at number ⊢
  rw [readNumber, dropBlanks_cons (Text.isBlank_of_isDigit digit)] at number
  rw [readYear, dropBlanks_cons (Text.isBlank_of_isDigit digit)]
  split
  next same =>
    cases same
    cases digit
  next same =>
    cases same
    cases digit
  next => rw [number, Option.map_some]

theorem readMark_cons {mark : Char} (visible : Text.isBlank mark = false) (rest : List Char) :
    readMark mark (mark :: rest) = some rest := by
  rw [readMark, dropBlanks_cons visible]
  exact if_pos rfl

/-- A fraction is read, in front of anything that it cannot go on with. -/
theorem readFraction_append {nanos : Nat} {fraction rest : List Char}
    (written : WritesFraction nanos fraction)
    (ends : ∀ character ∈ rest.head?, character ≠ '.' ∧ character.isDigit = false) :
    readFraction (fraction ++ rest) = some (nanos, rest) := by
  cases written with
  | none =>
      cases rest with
      | nil => rfl
      | cons character rest =>
          have apart := (ends character rfl).1
          rw [List.nil_append]
          unfold readFraction
          split
          next same =>
            cases same
            exact absurd rfl apart
          next => rfl
  | @digits _ digits nonempty decimal shown =>
      have noDigit : ∀ character ∈ rest.head?, character.isDigit = false :=
        fun character first => (ends character first).2
      have taken : (digits ++ rest).takeWhile Char.isDigit = digits :=
        Text.takeWhile_append decimal noDigit
      have dropped : (digits ++ rest).dropWhile Char.isDigit = rest :=
        Text.dropWhile_append decimal noDigit
      have keptDecimal : ∀ digit ∈ digits.take 9, digit.isDigit = true := fun digit member =>
        decimal digit (List.mem_of_mem_take member)
      have value := Text.digitsValue_append_zeros keptDecimal (9 - digits.length)
      rw [shown, Text.digitsValue_zeroPadded] at value
      have missing : 9 - (digits.take 9).length = 9 - digits.length := by
        rw [List.length_take]
        omega
      rw [List.cons_append, readFraction]
      simp only [taken, dropped, List.isEmpty_iff, nonempty, if_false, missing]
      rw [value]
      rfl

/-- Two digits, a colon and two digits are read as the hours and minutes of an offset. -/
theorem readOffsetSize_append {hours minutes : Nat} (hours_le : hours ≤ 23)
    (minutes_le : minutes ≤ 59) (rest : List Char) :
    readOffsetSize ((Text.zeroPadded 2 hours).toList ++
        ':' :: ((Text.zeroPadded 2 minutes).toList ++ rest)) =
      some (((hours * 3600 + minutes * 60 : Nat) : Int), rest) := by
  have hoursValue := Text.digitsValue_zeroPadded 2 hours
  have minutesValue := Text.digitsValue_zeroPadded 2 minutes
  rw [Text.toList_zeroPadded_two (by omega)] at hoursValue minutesValue ⊢
  rw [Text.toList_zeroPadded_two (by omega)]
  have digit {number : Nat} (small : number < 10) : number.digitChar.isDigit = true := by
    rw [Nat.isDigit_digitChar, decide_eq_true small]
  have tens : minutes / 10 < 6 := by omega
  have third : (minutes / 10).digitChar ≤ '5' := by
    interval_cases minutes / 10 <;> decide
  have visible : ((minutes / 10).digitChar == ':' ||
      Text.isBlank (minutes / 10).digitChar) = false := by
    interval_cases minutes / 10 <;> decide
  have colons : (':' :: ([(minutes / 10).digitChar, (minutes % 10).digitChar] ++ rest)).dropWhile
      (fun character => character == ':' || Text.isBlank character) =
        (minutes / 10).digitChar :: (minutes % 10).digitChar :: rest := by
    rw [List.dropWhile_cons_of_pos (by decide)]
    simp only [List.cons_append, List.nil_append, List.dropWhile_cons, visible,
      Bool.false_eq_true, if_false]
  simp only [readOffsetSize, List.cons_append, List.nil_append] at colons ⊢
  simp only [colons, digit (show hours / 10 < 10 by omega), digit (show hours % 10 < 10 by omega),
    digit (show minutes / 10 < 10 by omega), digit (show minutes % 10 < 10 by omega), third,
    decide_true, Bool.and_true, if_true, hoursValue, minutesValue]

/-- The text of an offset does not go on with a fraction. -/
theorem WritesOffset.ends {offset : Int} {zone : List Char} (written : WritesOffset offset zone) :
    ∀ character ∈ zone.head?, character ≠ '.' ∧ character.isDigit = false := by
  intro character begins
  cases written <;> cases begins <;> decide

theorem WritesOffset.wholeMinutes {offset : Int} {zone : List Char}
    (written : WritesOffset offset zone) : WholeMinutes offset := by
  cases written with
  | universal => exact ⟨by decide, by decide⟩
  | universalLower => exact ⟨by decide, by decide⟩
  | east hours minutes => exact ⟨by omega, by omega⟩
  | west hours minutes => exact ⟨by omega, by omega⟩

theorem dropUniversal?_cons {first : Char} (apart : first.toLower ≠ 'u') (rest : List Char) :
    dropUniversal? (first :: rest) = none := by
  rw [dropUniversal?, if_neg]
  rw [List.take_succ_cons, List.map_cons]
  exact fun same => apart (List.cons.inj same).1

theorem WritesOffset.readOffset_eq {offset : Int} {zone : List Char}
    (written : WritesOffset offset zone) :
    readOffset (Text.dropBlanks zone) = some (offset, []) := by
  cases written with
  | universal => rfl
  | universalLower => rfl
  | east hours minutes hours_le minutes_le =>
      have read := readOffsetSize_append hours_le minutes_le []
      rw [List.append_nil] at read
      rw [dropBlanks_cons (by decide), readOffset, dropUniversal?_cons (by decide)]
      simp only [read, Int.natCast_add, Int.natCast_mul, Int.cast_ofNat_Int]
  | west hours minutes hours_le minutes_le =>
      have read := readOffsetSize_append hours_le minutes_le []
      rw [List.append_nil] at read
      rw [dropBlanks_cons (by decide), readOffset, dropUniversal?_cons (by decide)]
      simp only [read, Option.map_some, Int.natCast_add, Int.natCast_mul, Int.cast_ofNat_Int]

/-! ## Reading the whole -/

/-- A date, a time of day and an offset of clocks stand for an instant. -/
theorem instant?_eq {date : CivilDate} (dated : date.Exists) (year : isYearInRange date.year = true)
    {hour minute second : Nat} (hour_le : hour ≤ 23) (minute_le : minute ≤ 59)
    (second_le : second ≤ 60) (nanos : Nat) {offset : Int} (short : offset.natAbs < 86400) :
    instant? date hour minute second nanos offset =
      some ⟨date.dayNumber * 86400 +
          (hour * 3600 + minute * 60 + (if second = 60 then 59 else second : Nat)) - offset,
        if second = 60 then nanos + 1000000000 else nanos⟩ := by
  have conditions : (isYearInRange date.year && decide (1 ≤ date.month) &&
      decide (date.month ≤ 12) && decide (1 ≤ date.day) &&
      decide (date.day ≤ daysInMonth date.year date.month) &&
      decide (hour ≤ 23) && decide (minute ≤ 59) && decide (second ≤ 60) &&
      decide (offset.natAbs < 86400)) = true := by
    simp only [year, dated.month_pos, dated.month_le, dated.day_pos, dated.day_le, hour_le,
      minute_le, second_le, short, decide_true, Bool.and_self]
  unfold instant?
  rw [if_pos conditions]

/-- What a clock with an offset of whole minutes shows stands for the instant. -/
theorem instant?_ofInstant {offset : Int} (whole : WholeMinutes offset) (instant : Instant)
    (nanos_lt : instant.nanos < 2000000000) (year : FourDigitYear (.ofInstant offset instant)) :
    instant? (LocalTime.ofInstant offset instant).date (LocalTime.ofInstant offset instant).hour
      (LocalTime.ofInstant offset instant).minute (LocalTime.ofInstant offset instant).second
      instant.fraction offset = some instant.settled := by
  obtain ⟨year_nonneg, year_le⟩ := year
  obtain ⟨minutes, short⟩ := whole
  have inRange : isYearInRange (LocalTime.ofInstant offset instant).date.year = true := by
    simp only [isYearInRange, Bool.and_eq_true, decide_eq_true_eq]
    omega
  obtain ⟨day, sameDay⟩ : ∃ day, day = (instant.seconds + offset) / 86400 := ⟨_, rfl⟩
  obtain ⟨clock, sameClock⟩ : ∃ clock, clock = ((instant.seconds + offset) % 86400).toNat :=
    ⟨_, rfl⟩
  obtain ⟨extra, sameExtra⟩ : ∃ extra, extra = instant.nanos / 1000000000 := ⟨_, rfl⟩
  have extra_le : extra ≤ 1 := by omega
  have hour : (LocalTime.ofInstant offset instant).hour = clock / 3600 := sameClock ▸ rfl
  have minute : (LocalTime.ofInstant offset instant).minute = clock / 60 % 60 := sameClock ▸ rfl
  have second : (LocalTime.ofInstant offset instant).second = clock % 60 + extra :=
    sameClock ▸ sameExtra ▸ rfl
  have number : (LocalTime.ofInstant offset instant).date.dayNumber = day :=
    sameDay ▸ CivilDate.dayNumber_ofDayNumber _
  have dated : (LocalTime.ofInstant offset instant).date.Exists := CivilDate.exists_ofDayNumber _
  rw [instant?_eq dated inRange (by omega) (by omega) (by omega) _ short, number, hour, minute,
    second]
  unfold Instant.settled Instant.fraction
  rcases instant with ⟨seconds, nanos⟩
  dsimp only at *
  have minuteEnd : ((clock % 60 : Nat) : Int) = seconds % 60 := by omega
  have shown : day * 86400 +
      ((clock / 3600 * 3600 + clock / 60 % 60 * 60 + clock % 60 : Nat) : Int) - offset =
        seconds := by
    omega
  by_cases leap : clock % 60 + extra = 60
  · rw [if_pos leap, if_pos leap, if_neg (by omega), Option.some.injEq, Instant.mk.injEq]
    omega
  · rw [if_neg leap, if_neg leap]
    by_cases beyond : 1000000000 ≤ nanos
    · rw [if_pos (by omega), Option.some.injEq, Instant.mk.injEq]
      omega
    · rw [if_neg (by omega), Option.some.injEq, Instant.mk.injEq]
      omega

theorem bind_of_eq_some {Value Result : Type} {step : Option Value} {value : Value}
    (read : step = some value) (next : Value → Option Result) : (step >>= next) = next value :=
  read ▸ rfl

/-- What a clock shows besides the year has two digits. -/
theorem two_digits {time : LocalTime} (dated : time.date.Exists)
    (clock : time.secondOfDay < 86400) (nanos_lt : time.nanos < 2000000000) :
    time.date.month < 100 ∧ time.date.day < 100 ∧ time.hour < 100 ∧ time.minute < 100 ∧
      time.second < 100 := by
  have month_le := dated.month_le
  have day_le := dated.day_le
  have longest := (CivilDate.daysInMonth_range time.date.year time.date.month).2
  unfold LocalTime.hour LocalTime.minute LocalTime.second
  omega

theorem secondOfDay_ofInstant_lt (offset : Int) (instant : Instant) :
    (LocalTime.ofInstant offset instant).secondOfDay < 86400 := by
  change ((instant.seconds + offset) % 86400).toNat < 86400
  omega

/-- What a clock shows is read part by part, down to the second. -/
theorem readChars_clockChars {time : LocalTime} (year : FourDigitYear time)
    (dated : time.date.Exists) (clock : time.secondOfDay < 86400)
    (nanos_lt : time.nanos < 2000000000) {separator : Char}
    (separated : separator ∈ ['T', 't', ' '])
    {nanos : Nat} {fraction : List Char} (fractionWritten : WritesFraction nanos fraction)
    {offset : Int} {zone : List Char} (offsetWritten : WritesOffset offset zone) :
    readChars (clockChars time separator (fraction ++ zone)) =
      instant? time.date time.hour time.minute time.second nanos offset := by
  have number {value : Nat} (small : value < 100) (rest : List Char) :
      readNumber 2 ((Text.zeroPadded 2 value).toList ++ rest) = some (value, rest) :=
    readNumber_zeroPadded (by decide) small rest
  rcases two_digits dated clock nanos_lt with ⟨month, day, hour, minute, second⟩
  have yearSize : time.date.year.toNat < 10 ^ 4 := by
    have le := year.2
    omega
  have yearRead (rest : List Char) :
      readYear ((Text.zeroPadded 4 time.date.year.toNat).toList ++ rest) =
        some (time.date.year, rest) := by
    rw [readYear_zeroPadded yearSize, Int.toNat_of_nonneg year.1]
  have dash (rest : List Char) : readMark '-' ('-' :: rest) = some rest :=
    readMark_cons (by decide) rest
  have colon (rest : List Char) : readMark ':' (':' :: rest) = some rest :=
    readMark_cons (by decide) rest
  have fractionRead := readFraction_append fractionWritten offsetWritten.ends
  simp only [List.mem_cons, List.not_mem_nil, or_false] at separated
  rw [readChars, clockChars]
  refine (bind_of_eq_some (yearRead _) _).trans ?_
  refine (bind_of_eq_some (dash _) _).trans ?_
  refine (bind_of_eq_some (number month _) _).trans ?_
  refine (bind_of_eq_some (dash _) _).trans ?_
  refine (bind_of_eq_some (number day _) _).trans ?_
  rcases separated with rfl | rfl | rfl
  all_goals
    refine (bind_of_eq_some (rfl : some _ = _) _).trans ?_
    refine (bind_of_eq_some (number hour _) _).trans ?_
    refine (bind_of_eq_some (colon _) _).trans ?_
    refine (bind_of_eq_some (number minute _) _).trans ?_
    refine (bind_of_eq_some (colon _) _).trans ?_
    refine (bind_of_eq_some (number second _) _).trans ?_
    refine (bind_of_eq_some fractionRead _).trans ?_
    exact bind_of_eq_some offsetWritten.readOffset_eq _

/-- A timestamp that a clock shows is read as the instant at which it shows it. -/
theorem readChars_of_shown {offset : Int} {zone fraction : List Char} {separator : Char}
    (instant : Instant) (nanos_lt : instant.nanos < 2000000000)
    (year : FourDigitYear (.ofInstant offset instant)) (separated : separator ∈ ['T', 't', ' '])
    (fractionWritten : WritesFraction instant.fraction fraction)
    (offsetWritten : WritesOffset offset zone) :
    readChars (clockChars (.ofInstant offset instant) separator (fraction ++ zone)) =
      some instant.settled := by
  rw [readChars_clockChars year (CivilDate.exists_ofDayNumber _) (secondOfDay_ofInstant_lt _ _)
    nanos_lt separated fractionWritten offsetWritten]
  exact instant?_ofInstant offsetWritten.wholeMinutes instant nanos_lt year

/-- Every way of writing an instant after RFC 3339 is read as that instant. -/
theorem Writes.readChars_eq {instant : Instant} {text : List Char}
    (writes : Writes instant text) : readChars text = some instant := by
  cases writes with
  | shows proper year separated fractionWritten offsetWritten =>
      rw [readChars_of_shown instant proper.nanos_lt year separated fractionWritten offsetWritten,
        proper.settled_eq]

end Timestamp
end LogLayout.Time
