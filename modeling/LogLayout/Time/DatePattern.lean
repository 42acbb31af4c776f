import LogLayout.Time.Calendar

namespace LogLayout.Time

/-!
Date patterns such as `yyyy-MM-dd HH:mm:ss.SSS`.

A run of one letter is a field, and how often the letter stands there chooses
its form.  Everything else is literal; letters become literal between single
quotes, and a doubled quote is a quote, inside quotes and outside.
-/

/-- The letters that stand for a part of a date. -/
inductive Letter where
  | year
  | yearAgain
  | month
  | dayOfMonth
  | dayOfYear
  | hour
  | hourOfHalfDay
  | minute
  | second
  | fraction
  | halfDay
  | weekday
  | offset
  | offsetUpper
  | offsetLower
  | zone
  deriving DecidableEq, Repr

namespace Letter

def toChar : Letter → Char
  | year => 'y'
  | yearAgain => 'u'
  | month => 'M'
  | dayOfMonth => 'd'
  | dayOfYear => 'D'
  | hour => 'H'
  | hourOfHalfDay => 'h'
  | minute => 'm'
  | second => 's'
  | fraction => 'S'
  | halfDay => 'a'
  | weekday => 'E'
  | offset => 'Z'
  | offsetUpper => 'X'
  | offsetLower => 'x'
  | zone => 'z'

def all : List Letter :=
  [year, yearAgain, month, dayOfMonth, dayOfYear, hour, hourOfHalfDay, minute, second,
    fraction, halfDay, weekday, offset, offsetUpper, offsetLower, zone]

def ofChar? (character : Char) : Option Letter :=
  all.find? fun letter => letter.toChar = character

theorem ofChar?_toChar (letter : Letter) : ofChar? letter.toChar = some letter := by
  cases letter <;> rfl

end Letter

/-! ## Texts of the fields -/

/-- A year has at least four digits, and a sign if it has more or lies before the
year 0. -/
def yearText (year : Int) : String :=
  if 0 ≤ year ∧ year ≤ 9999 then Text.zeroPadded 4 year.toNat
  else if 0 ≤ year then "+" ++ Text.zeroPadded 4 year.toNat
  else "-" ++ Text.zeroPadded 4 year.natAbs

def offsetSign (offset : Int) : String := if offset < 0 then "-" else "+"

/-- An offset in hours and minutes, rounded to the minute, with a separator
between them. -/
def offsetText (separator : String) (offset : Int) : String :=
  let minutes := (offset.natAbs + 30) / 60
  offsetSign offset ++ Text.zeroPadded 2 (minutes / 60) ++ separator ++
    Text.zeroPadded 2 (minutes % 60)

/-- An offset to the second, of which whole minutes show no seconds. -/
def exactOffsetText (offset : Int) : String :=
  let seconds := offset.natAbs
  offsetSign offset ++ Text.zeroPadded 2 (seconds / 3600) ++ ":" ++
    Text.zeroPadded 2 (seconds / 60 % 60) ++
    if seconds % 60 = 0 then "" else ":" ++ Text.zeroPadded 2 (seconds % 60)

/-- The first digits of a fraction of a second, with zeros behind the ninth. -/
def fractionText (count nanos : Nat) : String :=
  String.ofList ((Text.zeroPadded 9 nanos).toList.take count ++
    List.replicate (count - 9) '0')

/-- A number without padding if its letter stands once, else padded. -/
def numberText (width count number : Nat) : String :=
  if count = 1 then toString number else Text.zeroPadded width number

/-- The text of a field whose letter stands `count` times. -/
def Letter.render (letter : Letter) (count : Nat) (time : LocalTime) : String :=
  match letter with
  | year | yearAgain =>
      if count = 2 then Text.zeroPadded 2 (time.date.year % 100).toNat
      else yearText time.date.year
  | month =>
      let name := monthNames.getD (time.date.month - 1) ""
      if count ≤ 2 then numberText 2 count time.date.month
      else if count = 3 then shortName name
      else name
  | dayOfMonth => numberText 2 count time.date.day
  | dayOfYear => numberText 3 count time.date.dayOfYear
  | hour => numberText 2 count time.hour
  | hourOfHalfDay => numberText 2 count time.hourOfHalfDay
  | minute => numberText 2 count time.minute
  | second => numberText 2 count time.second
  | fraction => fractionText count time.fraction
  | halfDay => if time.hour < 12 then "AM" else "PM"
  | weekday =>
      let name := weekdayNames.getD (Time.weekday time.dayNumber) ""
      if count ≤ 3 then shortName name else name
  | offset => offsetText (if count ≤ 3 then "" else ":") time.offset
  | offsetUpper | offsetLower => offsetText (if count ≤ 2 then "" else ":") time.offset
  | zone => exactOffsetText time.offset

/-! ## Patterns -/

/-- A part of a date pattern. -/
inductive DatePart where
  | literal (text : String)
  | field (letter : Letter) (count : Nat)
  deriving DecidableEq, Repr

/-- The text of a part. -/
def DatePart.render (time : LocalTime) : DatePart → String
  | literal text => text
  | field letter count => letter.render count time

/-- A date pattern, as its parts from left to right. -/
structure DatePattern where
  parts : List DatePart
  deriving DecidableEq, Repr

/-- Why a date pattern cannot be read. -/
inductive DateFlaw where
  | unterminatedQuote (pattern : String)
  | unknownLetter (letter : Char)
  deriving DecidableEq, Repr

def DateFlaw.message : DateFlaw → String
  | unterminatedQuote pattern => s!"unterminated quote in date pattern '{pattern}'"
  | unknownLetter letter => s!"unknown date pattern letter '{letter}'"

namespace DatePattern

def format (pattern : DatePattern) (time : LocalTime) : String :=
  String.join (pattern.parts.map (DatePart.render time))

/-- Read a quoted stretch from behind its opening quote: its text, in which a
doubled quote is a quote, and what comes behind the closing quote. -/
def readQuoted : List Char → Option (List Char × List Char)
  | [] => none
  | '\x27' :: '\x27' :: rest =>
      (readQuoted rest).map fun (text, behind) => ('\x27' :: text, behind)
  | '\x27' :: rest => some ([], rest)
  | character :: rest =>
      (readQuoted rest).map fun (text, behind) => (character :: text, behind)

theorem length_of_readQuoted {input text behind : List Char}
    (read : readQuoted input = some (text, behind)) : behind.length < input.length := by
  fun_induction readQuoted input generalizing text behind with
  | case1 => simp at read
  | case2 rest inductionHypothesis =>
      obtain ⟨⟨first, second⟩, found, same⟩ := Option.map_eq_some_iff.mp read
      simp only [Prod.mk.injEq] at same
      have shorter := inductionHypothesis found
      simp only [List.length_cons, ← same.2]
      omega
  | case3 rest => simp_all
  | case4 character rest _ _ inductionHypothesis =>
      obtain ⟨⟨first, second⟩, found, same⟩ := Option.map_eq_some_iff.mp read
      simp only [Prod.mk.injEq] at same
      have shorter := inductionHypothesis found
      simp only [List.length_cons, ← same.2]
      omega

/-- Put literal text before parts, unless it is empty. -/
def prependLiteral (literal : List Char) (parts : List DatePart) : List DatePart :=
  if literal.isEmpty then parts else .literal (String.ofList literal) :: parts

/-- Whether a character is a letter of ASCII, which outside quotes must be one of
`Letter`. -/
def isPatternLetter (character : Char) : Bool := character.isAlpha

/-- Read the parts of a pattern; `literal` is the literal text before `text`. -/
def readParts (pattern : String) (literal : List Char) (text : List Char) :
    Except DateFlaw (List DatePart) :=
  match text with
  | [] => .ok (prependLiteral literal [])
  | '\x27' :: '\x27' :: rest => readParts pattern (literal ++ ['\x27']) rest
  | '\x27' :: rest =>
      match read : readQuoted rest with
      | none => .error (.unterminatedQuote pattern)
      | some (quoted, behind) =>
          have : behind.length < rest.length := length_of_readQuoted read
          readParts pattern (literal ++ quoted) behind
  | character :: rest =>
      if isPatternLetter character then
        match Letter.ofChar? character with
        | none => .error (.unknownLetter character)
        | some letter =>
            have : (rest.dropWhile (· == character)).length ≤ rest.length :=
              (List.dropWhile_sublist _).length_le
            (readParts pattern [] (rest.dropWhile (· == character))).map fun parts =>
              prependLiteral literal
                (.field letter ((rest.takeWhile (· == character)).length + 1) :: parts)
      else readParts pattern (literal ++ [character]) rest
termination_by text.length

def parse (pattern : String) : Except DateFlaw DatePattern :=
  (readParts pattern [] pattern.toList).map DatePattern.mk

end DatePattern
end LogLayout.Time
