import LogLayout.Proofs.Record.RoundTrip
import LogLayout.Proofs.Time.PrintedDates

namespace LogLayout.RecordDraft

open Json Time

/-!
# Printed dates in records

A date that the pattern `yyyy-MM-dd'T'HH:mm:ss.SSSSSSSSSXXX` prints in a zone of a fixed offset
can stand in a record, between quotes as it is or with escapes, and is read as the instant that
was printed.
-/

theorem plain_of_isDigit {digit : Char} (decimal : digit.isDigit = true) : Plain digit := by
  have range := Char.isDigit_iff_toNat.mp decimal
  have low : ('0' : Char).toNat = 48 := rfl
  refine ⟨by omega, ?_, ?_⟩ <;>
    · rintro rfl
      cases decimal

theorem plainText_format_timestamp {offset : Int} {instant : Instant}
    (year : Timestamp.FourDigitYear (.ofInstant offset instant)) :
    PlainText (DatePattern.timestamp.format (.ofInstant offset instant)).toList := by
  have number (width value : Nat) : PlainText (Text.zeroPadded width value).toList :=
    fun digit member => plain_of_isDigit (Text.isDigit_of_mem_zeroPadded digit member)
  have fraction : (LocalTime.ofInstant offset instant).fraction < 10 ^ 9 :=
    Nat.mod_lt _ (by decide)
  have sign : PlainText (offsetSign offset).toList := by
    unfold offsetSign
    split <;> decide
  have shown : (LocalTime.ofInstant offset instant).offset = offset := rfl
  rw [DatePattern.toList_format_timestamp _ year, DatePattern.toList_fractionText_nine fraction]
  simp only [Timestamp.clockChars, offsetText, shown, String.toList_append,
    plainText_append_iff, plainText_cons_iff]
  exact ⟨number 4 _, by decide, number 2 _, by decide, number 2 _, by decide, number 2 _,
    by decide, number 2 _, by decide, number 2 _, ⟨by decide, number 9 _⟩,
    ⟨⟨sign, number 2 _⟩, by decide⟩, number 2 _⟩

def ofTimestamp (timestamp : Instant) (thread : String) : Record :=
  { logger := "", level := .info, timestamp := timestamp, message := "", thread := thread }

/-- A record with nothing but a timestamp is written as an object of one field. -/
theorem writtenWith_ofTimestamp {date : String}
    (plain : PlainText date.toList) (now timestamp : Instant) (thread : String) :
    (ofTimestamp timestamp thread).WrittenWith (· = date.toList) now thread
      ("\x7b\x22timestamp\x22:\x22" ++ date ++ "\x22\x7d") := by
  have key : Spells "timestamp".toList "timestamp".toList := .of_plain (by decide)
  have dated : DateWritten (· = date.toList) ('\x22' :: (date.toList ++ ['\x22'])) :=
    ⟨date.toList, rfl, date.toList, .of_plain plain, rfl⟩
  have object : ObjectText [("timestamp", '\x22' :: (date.toList ++ ['\x22']))] _ :=
    .members (.last blank_nil key blank_nil blank_nil blank_nil)
  refine ⟨[], _, [], blank_nil, blank_nil, ⟨_, object, ?_, ?_, ?_⟩, ?_⟩
  · simp [recordFields]
  · intro member listed
    cases List.mem_singleton.mp listed
    exact dated
  · simp [recordFields, Record.FieldOmitted, ofTimestamp]
  · simp only [String.toList_append, List.append_assoc, List.nil_append, List.append_nil,
      List.cons_append]
    rfl

/-- A date that is printed by the pattern of a timestamp, in a zone of a fixed offset in which
the year has four digits, is read back as the same instant to the nanosecond, from an object of
nothing but this timestamp and from every text that writes a record with it. -/
theorem parse_of_printed_date {zoneText : String} {offset : Int}
    (zone : Zone.parse zoneText = .ok (.fixed offset)) (machineOffset : Instant → Int)
    {instant : Instant} (nanos_lt : instant.nanos < 2000000000)
    (year : Timestamp.FourDigitYear ((Zone.fixed offset).localTime machineOffset instant)) :
    ∃ pattern again, DatePattern.parse "yyyy-MM-dd'T'HH:mm:ss.SSSSSSSSSXXX" = .ok pattern ∧
      again.nanosSinceEpoch = instant.nanosSinceEpoch ∧ (instant.Proper → again = instant) ∧
      ∀ date, date = pattern.format ((Zone.fixed offset).localTime machineOffset instant) →
        ∀ now thread,
          (parse ("\x7b\x22timestamp\x22:\x22" ++ date ++ "\x22\x7d")).map
              (·.complete now thread) = .ok (ofTimestamp again thread) ∧
            ∀ (record : Record) text, record.timestamp = again →
              record.WrittenWith (· = date.toList) now thread text →
                (parse text).map (·.complete now thread) = .ok record := by
  refine ⟨.timestamp, instant.settled, DatePattern.parse_timestamp,
    instant.nanosSinceEpoch_settled, fun proper => proper.settled_eq, ?_⟩
  intro date printed now thread
  have read : Timestamp.readChars date.toList = some instant.settled := by
    rw [printed]
    exact DatePattern.readChars_format_timestamp (Zone.wholeMinutes_of_parse zone) nanos_lt year
  have plain : PlainText date.toList := by
    rw [printed]
    exact plainText_format_timestamp year
  have every (record : Record) (text : String) (dated : record.timestamp = instant.settled)
      (written : record.WrittenWith (· = date.toList) now thread text) :
      (parse text).map (·.complete now thread) = .ok record := by
    refine parse_of_writtenWith ?_ written
    rintro characters rfl
    rw [dated]
    exact read
  exact ⟨every _ _ rfl (writtenWith_ofTimestamp plain now instant.settled thread), every⟩

/-- The last nanosecond of a leap second, printed west of universal time, is read back. -/
theorem parse_of_printed_date_leap_second :
    let instant : Instant := ⟨1483228799, 1999999999⟩
    let time := (Zone.fixed (-12600)).localTime (fun _ => 0) instant
    Zone.parse "UTC-3:30" = .ok (.fixed (-12600)) ∧ instant.nanos < 2000000000 ∧
      Timestamp.FourDigitYear time ∧
      DatePattern.timestamp.format time = "2016-12-31T20:29:60.999999999-03:30" ∧
      (parse "\x7b\x22timestamp\x22:\x222016-12-31T20:29:60.999999999-03:30\x22\x7d").map
        (·.complete .epoch "main") = .ok (ofTimestamp instant "main") := by
  intro instant time
  have zone : Zone.parse "UTC-3:30" = .ok (.fixed (-12600)) := by decide +kernel
  have year : Timestamp.FourDigitYear time := ⟨by decide, by decide⟩
  have proper : instant.Proper := ⟨by decide, by decide⟩
  have printed : DatePattern.timestamp.format time = "2016-12-31T20:29:60.999999999-03:30" := by
    decide +kernel
  obtain ⟨pattern, again, parsed, -, same, readBack⟩ :=
    parse_of_printed_date zone (fun _ => 0) proper.nanos_lt year
  rw [DatePattern.parse_timestamp] at parsed
  cases parsed
  cases same proper
  exact ⟨zone, proper.nanos_lt, year, printed, (readBack _ printed.symm .epoch "main").1⟩

end LogLayout.RecordDraft
