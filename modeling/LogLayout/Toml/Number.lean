import LogLayout.Text.Decimal
import LogLayout.Text.Hexadecimal
import LogLayout.Time.Calendar
import LogLayout.Toml.Text
import LogLayout.Toml.Value

namespace LogLayout.Toml

/-!
Numbers, dates and times of TOML.

Integers are those of 64 bits.  Of floats and dates only the form matters here, and
that a float is not too large for 64 bits.
-/

/-! ## Digits -/

/-- Read further digits, each of which may have an underscore before it. -/
def readMoreDigits (test : Char → Bool) : List Char → Option (List Char × List Char)
  | [] => some ([], [])
  | ['_'] => none
  | '_' :: digit :: rest =>
      if test digit then consed digit (readMoreDigits test rest) else none
  | digit :: rest =>
      if test digit then consed digit (readMoreDigits test rest) else some ([], digit :: rest)

/-- Read digits, between which single underscores may stand. -/
def readDigits (test : Char → Bool) (text : List Char) : Option (List Char × List Char) :=
  match text with
  | [] => none
  | digit :: rest => if test digit then consed digit (readMoreDigits test rest) else none

/-- Read digits that have no zero in front, unless they are a zero. -/
def readWhole (text : List Char) : Option (List Char × List Char) :=
  match text with
  | '0' :: rest => some (['0'], rest)
  | _ => readDigits Char.isDigit text

def numberOf (base : Nat) (digits : List Char) : Nat :=
  digits.foldl (fun value digit => value * base + (Text.hexValue? digit).getD 0) 0

/-! ## Numbers -/

/-- An integer, if 64 bits hold it. -/
def integer? (value : Int) : Option Value :=
  if -9223372036854775808 ≤ value && value ≤ 9223372036854775807 then some (.integer value)
  else none

def readInteger (base : Nat) (test : Char → Bool) : Reader Value := fun text => do
  let (digits, rest) ← readDigits test text
  pure (← integer? (numberOf base digits), rest)

/-- The least number that is nearer to 2 ^ 1024 than to the greatest float. -/
def floatBound : Nat := Nat.pow 2 1024 - Nat.pow 2 970

/-- Whether digits with a decimal exponent are too large for a float. -/
def isBeyondFloat (digits : List Char) (exponent : Int) : Bool :=
  let digits := digits.dropWhile (· == '0')
  let magnitude := digits.length + exponent
  if digits.isEmpty || magnitude < 309 then false
  else if 310 ≤ magnitude then true
  else
    let value := Text.digitsValue digits
    if 0 ≤ exponent then floatBound ≤ value * Nat.pow 10 exponent.toNat
    else floatBound * Nat.pow 10 (-exponent).toNat ≤ value

def readFraction (text : List Char) : Option (List Char × List Char) :=
  match text with
  | '.' :: rest => readDigits Char.isDigit rest
  | _ => some ([], text)

/-- Read a number behind its sign, with the digits of its exponent. -/
def readSigned (text : List Char) : Option (Int × List Char) :=
  match text with
  | '-' :: rest =>
      (readDigits Char.isDigit rest).map fun (digits, rest) =>
        (-(Text.digitsValue digits : Int), rest)
  | '+' :: rest =>
      (readDigits Char.isDigit rest).map fun (digits, rest) => (Text.digitsValue digits, rest)
  | _ =>
      (readDigits Char.isDigit text).map fun (digits, rest) => (Text.digitsValue digits, rest)

def readExponent (text : List Char) : Option (Int × List Char) :=
  match text with
  | 'e' :: rest => readSigned rest
  | 'E' :: rest => readSigned rest
  | _ => some (0, text)

def writtenText (text rest : List Char) : String :=
  String.ofList (text.take (text.length - rest.length))

/-- Read a decimal number: an integer, or a float if a fraction or an exponent
follows. -/
def readDecimal (negative : Bool) : Reader Value := fun text => do
  let (whole, afterWhole) ← readWhole text
  let (fraction, afterFraction) ← readFraction afterWhole
  let (exponent, rest) ← readExponent afterFraction
  if rest.length = afterWhole.length then
    let value : Int := Text.digitsValue whole
    pure (← integer? (if negative then -value else value), rest)
  else if !negative && isBeyondFloat (whole ++ fraction) (exponent - fraction.length) then
    none
  else pure (.float (writtenText text rest), rest)

/-- Read a number behind its sign. -/
def readUnsigned (negative : Bool) : Reader Value := fun text =>
  match text with
  | 'i' :: 'n' :: 'f' :: rest => some (.float "inf", rest)
  | 'n' :: 'a' :: 'n' :: rest => some (.float "nan", rest)
  | _ => readDecimal negative text

def readNumber : Reader Value := fun text =>
  match text with
  | '0' :: 'x' :: rest => readInteger 16 (fun digit => (Text.hexValue? digit).isSome) rest
  | '0' :: 'o' :: rest => readInteger 8 (fun digit => '0' ≤ digit && digit ≤ '7') rest
  | '0' :: 'b' :: rest => readInteger 2 (fun digit => digit == '0' || digit == '1') rest
  | '-' :: rest => readUnsigned true rest
  | '+' :: rest => readUnsigned false rest
  | _ => readUnsigned false text

/-! ## Dates and times -/

/-- Read a number of a fixed count of digits within limits. -/
def readFixed (count least greatest : Nat) (text : List Char) : Option (Nat × List Char) :=
  let digits := text.take count
  let value := Text.digitsValue digits
  if digits.length = count && digits.all Char.isDigit && least ≤ value && value ≤ greatest then
    some (value, text.drop count)
  else none

def readMark (mark : Char) (text : List Char) : Option (List Char) :=
  match text with
  | [] => none
  | character :: rest => if character = mark then some rest else none

/-- Pass over a date. -/
def skipDay (text : List Char) : Option (List Char) := do
  let (year, text) ← readFixed 4 0 9999 text
  let (month, text) ← readFixed 2 1 12 (← readMark '-' text)
  let (_, text) ← readFixed 2 1 (Time.daysInMonth year month) (← readMark '-' text)
  pure text

def skipSecondFraction (text : List Char) : Option (List Char) :=
  match text with
  | '.' :: rest =>
      let behind := rest.dropWhile Char.isDigit
      if behind.length < rest.length then some behind else none
  | _ => some text

/-- Pass over a time of day. -/
def skipClock (text : List Char) : Option (List Char) := do
  let (_, text) ← readFixed 2 0 23 text
  let (_, text) ← readFixed 2 0 59 (← readMark ':' text)
  let (_, text) ← readFixed 2 0 60 (← readMark ':' text)
  skipSecondFraction text

/-- Pass over hours and minutes of an offset. -/
def skipOffsetSize (text : List Char) : Option (List Char) := do
  let (_, text) ← readFixed 2 0 23 text
  let (_, text) ← readFixed 2 0 59 (← readMark ':' text)
  pure text

def skipOffset (text : List Char) : Option (List Char) :=
  match text with
  | 'Z' :: rest => some rest
  | 'z' :: rest => some rest
  | '+' :: rest => skipOffsetSize rest
  | '-' :: rest => skipOffsetSize rest
  | _ => some text

/-- Pass over a time of day behind a date, if there is one. -/
def skipClockOfDay (text : List Char) : Option (List Char) :=
  match text with
  | mark :: rest =>
      if mark == 'T' || mark == 't' || mark == ' ' then
        match skipClock rest with
        | some behind => skipOffset behind
        | none => some text
      else some text
  | [] => some text

def readDate : Reader Value := fun text => do
  let rest ← match skipDay text with
    | some behind => skipClockOfDay behind
    | none => skipClock text
  pure (.date (writtenText text rest), rest)

/-- The fraction of a second to nine digits, without zeros at its end. -/
def fractionText (digits : List Char) : List Char :=
  match ((digits.take 9).reverse.dropWhile (· == '0')).reverse with
  | [] => []
  | shown => '.' :: shown

/-- Universal time has a capital letter, and an offset of zero is not negative. -/
def offsetText (written : List Char) : List Char :=
  if written = ['z'] then ['Z']
  else if written = "-00:00".toList then "+00:00".toList
  else written

def clockText (written : List Char) : List Char :=
  written.take 8 ++
    match written.drop 8 with
    | '.' :: rest =>
        fractionText (rest.takeWhile Char.isDigit) ++ offsetText (rest.dropWhile Char.isDigit)
    | rest => offsetText rest

/-- The text of a date however it is written, which may be with a blank or a small letter between
its parts. -/
def dateText (written : String) : String :=
  let text := written.toList
  String.ofList <|
    if text[4]? = some '-' then
      text.take 10 ++
        match text.drop 10 with
        | [] => []
        | _ :: clock => 'T' :: clockText clock
    else clockText text

end LogLayout.Toml
