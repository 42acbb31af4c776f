import LogLayout.Text.Blank
import LogLayout.Text.Decimal
import LogLayout.Time.Calendar

namespace LogLayout.Time

/-!
Written timestamps.

A timestamp is a date, a time of day and an offset, as in
`2018-08-23T20:34:52.088+02:00`.  The reader is lenient: a letter or a space may
separate date and time, blanks are allowed between the parts, numbers may leave out
leading zeros, and a second of 60 is a leap second.
-/

namespace Timestamp

/-- The result of a reading step: a value and the characters behind it. -/
abbrev Step (Value : Type) := Option (Value × List Char)

/-- Read at least one digit and at most `width` of them. -/
def readDigits (width : Nat) (text : List Char) : Step Nat :=
  let digits := (text.take width).takeWhile Char.isDigit
  if digits.isEmpty then none
  else some (Text.digitsValue digits, text.drop digits.length)

/-- Read a number of up to `width` digits behind blanks. -/
def readNumber (width : Nat) (text : List Char) : Step Nat :=
  readDigits width (Text.dropBlanks text)

/-- Read a year: up to four digits, or any number of them behind a sign. -/
def readYear (text : List Char) : Step Int :=
  match Text.dropBlanks text with
  | '-' :: rest => (readDigits rest.length rest).map fun (value, behind) => (-value, behind)
  | '+' :: rest => (readDigits rest.length rest).map fun (value, behind) => (value, behind)
  | others => (readDigits 4 others).map fun (value, behind) => (value, behind)

/-- Read a separator behind blanks. -/
def readMark (mark : Char) (text : List Char) : Option (List Char) :=
  match Text.dropBlanks text with
  | [] => none
  | character :: rest => if character = mark then some rest else none

/-- Read a fraction of a second, in nanoseconds, if there is one.  Digits behind
the ninth do not count. -/
def readFraction (text : List Char) : Step Nat :=
  match text with
  | '.' :: rest =>
      let digits := rest.takeWhile Char.isDigit
      if digits.isEmpty then none
      else
        let kept := digits.take 9
        some (Text.digitsValue kept * Nat.pow 10 (9 - kept.length), rest.dropWhile Char.isDigit)
  | _ => some (0, text)

/-- Read the hours and minutes of an offset, with colons or blanks between them,
in seconds. -/
def readOffsetSize (text : List Char) : Step Int :=
  match text with
  | first :: second :: rest =>
      if first.isDigit && second.isDigit then
        match rest.dropWhile fun character => character == ':' || Text.isBlank character with
        | third :: fourth :: behind =>
            if third.isDigit && third ≤ '5' && fourth.isDigit then
              some ((Text.digitsValue [first, second] * 3600 +
                Text.digitsValue [third, fourth] * 60 : Nat), behind)
            else none
        | _ => none
      else none
  | _ => none

/-- Whether a text begins with the letters of `UTC` in any case. -/
def dropUniversal? (text : List Char) : Option (List Char) :=
  if (text.take 3).map Char.toLower = ['u', 't', 'c'] then some (text.drop 3) else none

/-- Read an offset in seconds: a name of universal time, or a sign, which may be
the minus sign of typography, with hours and minutes. -/
def readOffset (text : List Char) : Step Int :=
  match dropUniversal? text with
  | some behind => some (0, behind)
  | none =>
      match text with
      | 'Z' :: rest => some (0, rest)
      | 'z' :: rest => some (0, rest)
      | '+' :: rest => readOffsetSize rest
      | '-' :: rest => (readOffsetSize rest).map fun (value, behind) => (-value, behind)
      | '\u2212' :: rest => (readOffsetSize rest).map fun (value, behind) => (-value, behind)
      | _ => none

/-- The years that a calendar date may have. -/
def isYearInRange (year : Int) : Bool := -262143 ≤ year && year ≤ 262142

/-- The instant of a date, a time of day in hours, minutes, seconds and nanoseconds,
and an offset, if there is such a time. -/
def instant? (date : CivilDate) (hour minute second nanos : Nat) (offset : Int) :
    Option Instant :=
  if isYearInRange date.year && 1 ≤ date.month && date.month ≤ 12 && 1 ≤ date.day &&
      date.day ≤ daysInMonth date.year date.month && hour ≤ 23 && minute ≤ 59 &&
      second ≤ 60 && offset.natAbs < 86400 then
    let leap := second = 60
    let shown : Int := hour * 3600 + minute * 60 + (if leap then 59 else second : Nat)
    some ⟨date.dayNumber * 86400 + shown - offset,
      if leap then nanos + 1000000000 else nanos⟩
  else none

def readChars (text : List Char) : Option Instant := do
  let (year, text) ← readYear text
  let text ← readMark '-' text
  let (month, text) ← readNumber 2 text
  let text ← readMark '-' text
  let (day, text) ← readNumber 2 text
  let text ← match text with
    | 'T' :: rest => some rest
    | 't' :: rest => some rest
    | ' ' :: rest => some rest
    | _ => none
  let (hour, text) ← readNumber 2 text
  let text ← readMark ':' text
  let (minute, text) ← readNumber 2 text
  let text ← readMark ':' text
  let (second, text) ← readNumber 2 text
  let (nanos, text) ← readFraction text
  let (offset, text) ← readOffset (Text.dropBlanks text)
  if text.all Text.isBlank then instant? ⟨year, month, day⟩ hour minute second nanos offset
  else none

def parse? (text : String) : Option Instant := readChars text.toList

end Timestamp
end LogLayout.Time
