import LogLayout.Proofs.Time.Timestamps
import LogLayout.Proofs.Time.Zones
import LogLayout.Time.DatePattern

namespace LogLayout.Time

/-!
# Dates that can be read back

The pattern `yyyy-MM-dd'T'HH:mm:ss.SSSSSSSSSXXX` prints what a clock shows in the form of a
timestamp, with all nine digits of the fraction.  The offset it prints has hours and minutes
only, so nothing is lost if the offset is a whole number of minutes, as it is in every zone
that is written as an offset.
-/

/-! ## Zones of a fixed offset -/

namespace Zone

/-- A zone of a fixed offset is a whole number of minutes from universal time. -/
theorem wholeMinutes_of_parse {text : String} {offset : Int}
    (parsed : parse text = .ok (.fixed offset)) : WholeMinutes offset := by
  rcases range_of_parse parsed with ⟨minutes, short⟩
  exact ⟨minutes, by omega⟩

end Zone

/-! ## Printing -/

namespace DatePattern

def timestamp : DatePattern :=
  ⟨[.field .year 4, .literal "-", .field .month 2, .literal "-", .field .dayOfMonth 2,
    .literal "T", .field .hour 2, .literal ":", .field .minute 2, .literal ":", .field .second 2,
    .literal ".", .field .fraction 9, .field .offsetUpper 3]⟩

theorem parse_timestamp : parse "yyyy-MM-dd'T'HH:mm:ss.SSSSSSSSSXXX" = .ok timestamp := by
  decide +kernel

/-- An offset of whole minutes is printed as timestamps write it. -/
theorem writesOffset_offsetText {offset : Int} (whole : WholeMinutes offset) :
    Timestamp.WritesOffset offset (offsetText ":" offset).toList := by
  obtain ⟨minutes, short⟩ := whole
  obtain ⟨total, sameTotal⟩ : ∃ total, total = (offset.natAbs + 30) / 60 := ⟨_, rfl⟩
  have text : (offsetText ":" offset).toList = (offsetSign offset).toList ++
      ((Text.zeroPadded 2 (total / 60)).toList ++ ':' ::
        (Text.zeroPadded 2 (total % 60)).toList) := by
    simp only [offsetText, ← sameTotal, String.toList_append, List.append_assoc]
    rfl
  rw [text]
  by_cases negative : offset < 0
  · have west := Timestamp.WritesOffset.west (total / 60) (total % 60) (by omega) (by omega)
    have same : offset =
        -(((total / 60 : Nat) : Int) * 3600 + ((total % 60 : Nat) : Int) * 60) := by
      omega
    rw [← same] at west
    rw [offsetSign, if_pos negative, show "-".toList = ['-'] from rfl, List.singleton_append]
    exact west
  · have east := Timestamp.WritesOffset.east (total / 60) (total % 60) (by omega) (by omega)
    have same : offset = ((total / 60 : Nat) : Int) * 3600 + ((total % 60 : Nat) : Int) * 60 := by
      omega
    rw [← same] at east
    rw [offsetSign, if_neg negative, show "+".toList = ['+'] from rfl, List.singleton_append]
    exact east

theorem toList_fractionText (count nanos : Nat) :
    (fractionText count nanos).toList =
      (Text.zeroPadded 9 nanos).toList.take count ++ List.replicate (count - 9) '0' :=
  String.toList_ofList

theorem toList_fractionText_nine {nanos : Nat} (fits : nanos < 10 ^ 9) :
    (fractionText 9 nanos).toList = (Text.zeroPadded 9 nanos).toList := by
  have long := Text.length_zeroPadded (by decide) fits
  rw [toList_fractionText, List.take_of_length_le (Nat.le_of_eq long)]
  exact List.append_nil _

/-- The nine digits of a fraction are printed as timestamps write it. -/
theorem writesFraction_fractionText {nanos : Nat} (fits : nanos < 10 ^ 9) :
    Timestamp.WritesFraction nanos ('.' :: (fractionText 9 nanos).toList) := by
  have long := Text.length_zeroPadded (by decide) fits
  rw [toList_fractionText_nine fits]
  refine .digits ?_ Text.isDigit_of_mem_zeroPadded ?_
  · intro none
    rw [none] at long
    cases long
  · rw [long, Nat.sub_self, List.replicate_zero, List.append_nil,
      List.take_of_length_le (Nat.le_of_eq long)]

/-- The parts of a pattern for date and time down to the second. -/
def clockParts (separator : Char) : List DatePart :=
  [.field .year 4, .literal "-", .field .month 2, .literal "-", .field .dayOfMonth 2,
    .literal (String.singleton separator), .field .hour 2, .literal ":", .field .minute 2,
    .literal ":", .field .second 2]

/-- Date and time are printed as a clock shows them. -/
theorem toList_format_clockParts (separator : Char) (behind : List DatePart) (time : LocalTime)
    (year : Timestamp.FourDigitYear time) :
    (format ⟨clockParts separator ++ behind⟩ time).toList =
      Timestamp.clockChars time separator (format ⟨behind⟩ time).toList := by
  obtain ⟨nonneg, le⟩ := year
  have yearPrinted : yearText time.date.year = Text.zeroPadded 4 time.date.year.toNat :=
    if_pos ⟨nonneg, le⟩
  simp [format, clockParts, DatePart.render, Letter.render, numberText, yearPrinted,
    Timestamp.clockChars, String.toList_join]

/-- What the pattern of a timestamp prints is what timestamps look like. -/
theorem toList_format_timestamp (time : LocalTime) (year : Timestamp.FourDigitYear time) :
    (timestamp.format time).toList =
      Timestamp.clockChars time 'T'
        ('.' :: (fractionText 9 time.fraction).toList ++ (offsetText ":" time.offset).toList) := by
  have clock := toList_format_clockParts 'T'
    [.literal ".", .field .fraction 9, .field .offsetUpper 3] time year
  have behind : (format ⟨[.literal ".", .field .fraction 9, .field .offsetUpper 3]⟩ time).toList =
      '.' :: (fractionText 9 time.fraction).toList ++ (offsetText ":" time.offset).toList := by
    simp [format, DatePart.render, Letter.render]
  rw [behind] at clock
  exact clock

theorem readChars_format_timestamp {offset : Int} (whole : WholeMinutes offset)
    {instant : Instant} (nanos_lt : instant.nanos < 2000000000)
    (year : Timestamp.FourDigitYear (.ofInstant offset instant)) :
    Timestamp.readChars (timestamp.format (.ofInstant offset instant)).toList =
      some instant.settled := by
  rw [toList_format_timestamp _ year]
  exact Timestamp.readChars_of_shown instant nanos_lt year (by decide)
    (writesFraction_fractionText (Nat.mod_lt _ (by decide))) (writesOffset_offsetText whole)

end DatePattern
end LogLayout.Time
