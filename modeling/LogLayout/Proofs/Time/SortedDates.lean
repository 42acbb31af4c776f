import LogLayout.Proofs.Text.Ordering
import LogLayout.Proofs.Time.PrintedDates
import LogLayout.Proofs.Time.WrittenPatterns

namespace LogLayout.Time

/-!
# Dates that sort as texts

The pattern `yyyy-MM-dd HH:mm:ss.SSS`, with any number of digits behind the point, prints the
instants of one zone in an order that texts keep.  From the left it shows the numbers of a clock,
the greatest unit first and each with as many digits as it may need, and the first of them that
differs is the lesser one at the earlier instant.  This holds across the ends of months and years.
A leap second is shown as the sixtieth second of its minute, which no other second is: an offset of
whole minutes does not move it away from the end of the minute.
-/

/-- The order of instants: by their seconds, and within a second by the nanoseconds, so that a leap
second lies behind the second that it goes on and in front of the next one. -/
def Instant.Precedes (first second : Instant) : Prop :=
  first.seconds < second.seconds ∨
    first.seconds = second.seconds ∧ first.nanos < second.nanos

/-! ## The numbers that a clock shows -/

namespace LocalTime

def dateNumbers (time : LocalTime) : List Nat :=
  [time.date.year.toNat, time.date.month, time.date.day]

def timeNumbers (time : LocalTime) : List Nat := [time.hour, time.minute, time.second]

/-- The numbers of a clock, the greatest unit first. -/
def clockNumbers (time : LocalTime) : List Nat := time.dateNumbers ++ time.timeNumbers

theorem dateNumbers_lt {first second : LocalTime} (year : 0 ≤ first.date.year)
    (less : first.dayNumber < second.dayNumber) : first.dateNumbers < second.dateNumbers := by
  have numbers : first.date.dayNumber < second.date.dayNumber := by
    rwa [date, date, CivilDate.dayNumber_ofDayNumber, CivilDate.dayNumber_ofDayNumber]
  have before : first.date.year < second.date.year ∨ first.date.year = second.date.year ∧
      (first.date.month < second.date.month ∨
        first.date.month = second.date.month ∧ first.date.day < second.date.day) :=
    (CivilDate.exists_ofDayNumber _).before_of_dayNumber_lt (CivilDate.exists_ofDayNumber _) numbers
  simp only [dateNumbers, List.cons_lt_cons_iff, List.not_lt_nil, and_false, or_false]
  omega

section Clocks

variable {offset : Int} {first second : Instant}

/-- On one day an earlier second has lesser numbers, and within one second the earlier instant has
the lesser fraction.  The offset leaves the place of a second in its minute as it is, so that only
the last second of a minute is counted on. -/
theorem timeNumbers_of_precedes (minutes : offset % 60 = 0) (firstProper : first.Proper)
    (secondProper : second.Proper) (precedes : first.Precedes second)
    (sameDay : (ofInstant offset first).dayNumber = (ofInstant offset second).dayNumber) :
    (ofInstant offset first).timeNumbers < (ofInstant offset second).timeNumbers ∨
      (ofInstant offset first).timeNumbers = (ofInstant offset second).timeNumbers ∧
        first.fraction < second.fraction := by
  have last {instant : Instant} (proper : instant.Proper) (leap : 1000000000 ≤ instant.nanos) :
      (instant.seconds + offset) % 60 = 59 := by
    have ends := proper.leap leap
    omega
  have firstLast := last firstProper
  have secondLast := last secondProper
  have firstNanos := firstProper.nanos_lt
  have secondNanos := secondProper.nanos_lt
  simp only [timeNumbers, hour, minute, LocalTime.second, ofInstant, Instant.fraction,
    List.cons_lt_cons_iff, List.not_lt_nil, and_false, or_false, List.cons.injEq,
    and_true] at sameDay ⊢
  rcases precedes with earlier | ⟨same, behind⟩
  · omega
  · omega

/-- The clock shows lesser numbers at the earlier instant, or the same ones and a lesser
fraction. -/
theorem clockNumbers_of_precedes (minutes : offset % 60 = 0) (firstProper : first.Proper)
    (secondProper : second.Proper) (precedes : first.Precedes second)
    (year : 0 ≤ (ofInstant offset first).date.year) :
    (ofInstant offset first).clockNumbers < (ofInstant offset second).clockNumbers ∨
      (ofInstant offset first).clockNumbers = (ofInstant offset second).clockNumbers ∧
        first.fraction < second.fraction := by
  have days : (ofInstant offset first).dayNumber ≤ (ofInstant offset second).dayNumber := by
    have seconds : first.seconds ≤ second.seconds := by
      rcases precedes with earlier | ⟨same, -⟩
      · exact Int.le_of_lt earlier
      · exact Int.le_of_eq same
    exact Int.ediv_le_ediv (by decide) (Int.add_le_add_right seconds offset)
  rcases Int.lt_or_eq_of_le days with before | sameDay
  · have dates := dateNumbers_lt year before
    exact .inl (Text.append_lt_append (by rfl) dates _ _)
  · have sameDate :
        (ofInstant offset first).dateNumbers = (ofInstant offset second).dateNumbers := by
      rw [dateNumbers, dateNumbers, date, date, sameDay]
    rw [clockNumbers, clockNumbers, sameDate]
    exact (timeNumbers_of_precedes minutes firstProper secondProper precedes sameDay).imp
      List.append_left_lt (And.imp_left (congrArg _))

end Clocks

/-- The widths of the numbers of a clock, and the marks behind them. -/
def clockFields : List (Nat × Char) :=
  [(4, '-'), (2, '-'), (2, ' '), (2, ':'), (2, ':'), (2, '.')]

theorem clockNumbers_fit {offset : Int} {instant : Instant} (proper : instant.Proper)
    (year : Timestamp.FourDigitYear (ofInstant offset instant)) :
    Text.Fit clockFields (ofInstant offset instant).clockNumbers := by
  have yearSize : (ofInstant offset instant).date.year.toNat < 10 ^ 4 := by
    have le := year.2
    omega
  rcases Timestamp.two_digits (CivilDate.exists_ofDayNumber _)
    (Timestamp.secondOfDay_ofInstant_lt offset instant) proper.nanos_lt with
      ⟨month, day, hour, minute, second⟩
  exact .cons ⟨by decide, yearSize⟩ (.cons ⟨by decide, month⟩ (.cons ⟨by decide, day⟩
    (.cons ⟨by decide, hour⟩ (.cons ⟨by decide, minute⟩ (.cons ⟨by decide, second⟩ .nil)))))

end LocalTime

/-! ## Fractions -/

namespace DatePattern

theorem length_fractionText (count : Nat) {nanos : Nat} (fits : nanos < 10 ^ 9) :
    (fractionText count nanos).toList.length = count := by
  rw [toList_fractionText, List.length_append, List.length_take, List.length_replicate,
    Text.length_zeroPadded (by decide) fits]
  omega

/-- The lesser fraction is shown in front of the other, or like it if their digits are cut before
the ninth. -/
theorem fractionText_of_lt (count : Nat) {nanos others : Nat} (less : nanos < others)
    (fits : others < 10 ^ 9) :
    (fractionText count nanos).toList < (fractionText count others).toList ∨
      count < 9 ∧ (fractionText count nanos).toList = (fractionText count others).toList := by
  have length {number : Nat} (small : number < 10 ^ 9) :
      (Text.zeroPadded 9 number).toList.length = 9 := Text.length_zeroPadded (by decide) small
  have nanosLength := length (Nat.lt_trans less fits)
  have othersLength := length fits
  have digits := Text.zeroPadded_lt (by decide) less fits
  rw [toList_fractionText, toList_fractionText]
  rcases Nat.lt_or_ge count 9 with cut | all
  · rcases Text.take_lt_or_eq digits count with before | alike
    · refine .inl (Text.append_lt_append ?_ before _ _)
      rw [List.length_take, List.length_take, nanosLength, othersLength]
    · exact .inr ⟨cut, by rw [alike]⟩
  · rw [List.take_of_length_le (Nat.le_trans (Nat.le_of_eq nanosLength) all),
      List.take_of_length_le (Nat.le_trans (Nat.le_of_eq othersLength) all)]
    exact .inl (Text.append_lt_append (nanosLength.trans othersLength.symm) digits _ _)

/-! ## The pattern -/

/-- The pattern of a date and a time with a number of digits behind the second. -/
def sortable (count : Nat) : DatePattern :=
  ⟨clockParts ' ' ++ [.literal ".", .field .fraction count]⟩

theorem readParts_marked (pattern : String) (letter : Letter) (count : Nat) (before : List Char)
    {mark : Char} (quote : mark ≠ '\x27') (plain : isPatternLetter mark = false)
    (behind : List Char) :
    readParts pattern before (List.replicate (count + 1) letter.toChar ++ mark :: behind) =
      (readParts pattern [mark] behind).map fun parts =>
        prependLiteral before (.field letter (count + 1) :: parts) := by
  have ended : (mark :: behind).head? ≠ some letter.toChar := fun same => by
    cases same
    rw [letter.isPatternLetter_toChar] at plain
    cases plain
  rw [readParts_field pattern letter count before ended,
    readParts.eq_4 _ _ _ _ (fun _ same => absurd same quote) quote,
    if_neg (by rw [plain]; exact Bool.false_ne_true), List.nil_append]

theorem parse_sortable {count : Nat} (some : 0 < count) :
    parse ("yyyy-MM-dd HH:mm:ss." ++ String.ofList (List.replicate count 'S')) =
      .ok (sortable count) := by
  obtain ⟨count, rfl⟩ := Nat.exists_eq_succ_of_ne_zero (Nat.ne_of_gt some)
  generalize whole : "yyyy-MM-dd HH:mm:ss." ++ String.ofList (List.replicate (count + 1) 'S') =
    pattern
  have text : pattern.toList =
      List.replicate (3 + 1) Letter.year.toChar ++ '-' ::
        (List.replicate (1 + 1) Letter.month.toChar ++ '-' ::
          (List.replicate (1 + 1) Letter.dayOfMonth.toChar ++ ' ' ::
            (List.replicate (1 + 1) Letter.hour.toChar ++ ':' ::
              (List.replicate (1 + 1) Letter.minute.toChar ++ ':' ::
                (List.replicate (1 + 1) Letter.second.toChar ++ '.' ::
                  (List.replicate (count + 1) Letter.fraction.toChar ++ [])))))) := by
    rw [← whole, String.toList_append, String.toList_ofList, String.toList_ofList, List.append_nil]
    rfl
  rw [parse, text, readParts_marked pattern .year 3 [] (by decide) (by decide),
    readParts_marked pattern .month 1 _ (by decide) (by decide),
    readParts_marked pattern .dayOfMonth 1 _ (by decide) (by decide),
    readParts_marked pattern .hour 1 _ (by decide) (by decide),
    readParts_marked pattern .minute 1 _ (by decide) (by decide),
    readParts_marked pattern .second 1 _ (by decide) (by decide),
    readParts_field pattern .fraction count _ (by decide), readParts]
  rfl

theorem toList_format_sortable (count : Nat) (time : LocalTime)
    (year : Timestamp.FourDigitYear time) :
    ((sortable count).format time).toList =
      Text.markedNumbers LocalTime.clockFields time.clockNumbers ++
        (fractionText count time.fraction).toList := by
  have behind : (format ⟨[.literal ".", .field .fraction count]⟩ time).toList =
      '.' :: (fractionText count time.fraction).toList := by
    simp [format, DatePart.render, Letter.render]
  rw [sortable, toList_format_clockParts ' ' _ time year, behind]
  simp only [Timestamp.clockChars, LocalTime.clockFields, LocalTime.clockNumbers,
    LocalTime.dateNumbers, LocalTime.timeNumbers, List.cons_append, List.nil_append,
    Text.markedNumbers, List.append_assoc]

/-- The earlier instant is shown in front, or both are shown alike if their nanoseconds are cut. -/
theorem format_sortable_of_precedes (count : Nat) {offset : Int} {first second : Instant}
    (minutes : offset % 60 = 0) (firstProper : first.Proper) (secondProper : second.Proper)
    (precedes : first.Precedes second)
    (firstYear : Timestamp.FourDigitYear (.ofInstant offset first))
    (secondYear : Timestamp.FourDigitYear (.ofInstant offset second)) :
    (sortable count).format (.ofInstant offset first) <
        (sortable count).format (.ofInstant offset second) ∨
      count < 9 ∧ (sortable count).format (.ofInstant offset first) =
        (sortable count).format (.ofInstant offset second) := by
  rw [String.lt_iff_toList_lt, ← String.toList_inj, toList_format_sortable count _ firstYear,
    toList_format_sortable count _ secondYear]
  rcases LocalTime.clockNumbers_of_precedes minutes firstProper secondProper precedes firstYear.1
    with earlier | ⟨same, behind⟩
  · have firstFit := LocalTime.clockNumbers_fit firstProper firstYear
    have secondFit := LocalTime.clockNumbers_fit secondProper secondYear
    exact .inl (Text.append_lt_append
      ((Text.length_markedNumbers firstFit).trans (Text.length_markedNumbers secondFit).symm)
      (Text.markedNumbers_lt firstFit secondFit earlier) _ _)
  · have fits : second.fraction < 10 ^ 9 := Nat.mod_lt _ (by decide)
    rw [same]
    rcases fractionText_of_lt count behind fits with before | ⟨cut, alike⟩
    · exact .inl (List.append_left_lt before)
    · exact .inr ⟨cut, congrArg _ alike⟩

theorem length_format_sortable (count : Nat) {offset : Int} {instant : Instant}
    (proper : instant.Proper) (year : Timestamp.FourDigitYear (.ofInstant offset instant)) :
    ((sortable count).format (.ofInstant offset instant)).length = 20 + count := by
  have fits : (LocalTime.ofInstant offset instant).fraction < 10 ^ 9 := Nat.mod_lt _ (by decide)
  rw [← String.length_toList, toList_format_sortable count _ year, List.length_append,
    Text.length_markedNumbers (LocalTime.clockNumbers_fit proper year),
    length_fractionText count fits]
  rfl

/-- In a zone of a fixed offset the pattern `yyyy-MM-dd HH:mm:ss.`, with any number of digits behind
it, shows all instants of four-digit years in texts of one length.  Of two instants the later one is
never shown in front of the other, and with nine digits or more both are shown alike only if they
are the same to the nanosecond. -/
theorem format_sorted {zone : String} {offset : Int}
    (parsed : Zone.parse zone = .ok (.fixed offset)) {count : Nat} (some : 0 < count)
    {first second : Instant} (firstProper : first.Proper) (secondProper : second.Proper)
    (order : first = second ∨ first.Precedes second)
    (firstYear : Timestamp.FourDigitYear (.ofInstant offset first))
    (secondYear : Timestamp.FourDigitYear (.ofInstant offset second))
    (machineOffset : Instant → Int) :
    ∃ pattern,
      parse ("yyyy-MM-dd HH:mm:ss." ++ String.ofList (List.replicate count 'S')) = .ok pattern ∧
      let shown := fun instant =>
        pattern.format ((Zone.fixed offset).localTime machineOffset instant)
      shown first ≤ shown second ∧
      (shown first).length = 20 + count ∧ (shown second).length = 20 + count ∧
      (9 ≤ count → shown first = shown second → first = second) := by
  have minutes := (Zone.wholeMinutes_of_parse parsed).minutes
  refine ⟨sortable count, parse_sortable some, ?_,
    length_format_sortable count firstProper firstYear,
    length_format_sortable count secondProper secondYear, fun all alike => ?_⟩
  · rcases order with rfl | precedes
    · exact le_refl _
    · rcases format_sortable_of_precedes count minutes firstProper secondProper precedes firstYear
        secondYear with before | ⟨-, alike⟩
      · exact le_of_lt before
      · exact le_of_eq alike
  · rcases order with same | precedes
    · exact same
    · rcases format_sortable_of_precedes count minutes firstProper secondProper precedes firstYear
        secondYear with before | ⟨cut, -⟩
      · exact absurd alike (ne_of_lt before)
      · omega

/-- The leap second at the end of a year, as it is shown in the east, and the year behind it. -/
theorem format_sorted_leapSecond :
    let last : Instant := ⟨1483208999, 1500000000⟩
    let next : Instant := ⟨1483209000, 0⟩
    Zone.parse "+05:30" = .ok (.fixed 19800) ∧ 0 < 9 ∧ last.Proper ∧ next.Proper ∧
      (last = next ∨ last.Precedes next) ∧ Timestamp.FourDigitYear (.ofInstant 19800 last) ∧
      Timestamp.FourDigitYear (.ofInstant 19800 next) ∧
      ∃ pattern, parse "yyyy-MM-dd HH:mm:ss.SSSSSSSSS" = .ok pattern ∧
        let shown := fun instant =>
          pattern.format ((Zone.fixed 19800).localTime (fun _ => 0) instant)
        shown last ≤ shown next ∧ (shown last).length = 29 ∧ (shown next).length = 29 ∧
        (9 ≤ 9 → shown last = shown next → last = next) := by
  intro last next
  have parsed : Zone.parse "+05:30" = .ok (.fixed 19800) := by decide +kernel
  have some : 0 < 9 := by decide
  have lastProper : last.Proper := ⟨by decide, by decide⟩
  have nextProper : next.Proper := ⟨by decide, by decide⟩
  have order : last = next ∨ last.Precedes next := .inr (.inl (by decide))
  have lastYear : Timestamp.FourDigitYear (.ofInstant 19800 last) := ⟨by decide, by decide⟩
  have nextYear : Timestamp.FourDigitYear (.ofInstant 19800 next) := ⟨by decide, by decide⟩
  have sorted := format_sorted parsed some lastProper nextProper order lastYear nextYear fun _ => 0
  rw [show "yyyy-MM-dd HH:mm:ss." ++ String.ofList (List.replicate 9 'S') =
    "yyyy-MM-dd HH:mm:ss.SSSSSSSSS" by decide] at sorted
  exact ⟨parsed, some, lastProper, nextProper, order, lastYear, nextYear, sorted⟩

end DatePattern
end LogLayout.Time
