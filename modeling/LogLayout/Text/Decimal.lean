namespace LogLayout.Text

/-!
Numbers in decimal digits.

Only ASCII digits count here.  Signed numbers are read within 32 bits, from left
to right, so that the first character at which reading cannot go on decides what
is wrong with a text.
-/

def digitValue? (character : Char) : Option Nat :=
  if character.isDigit then some (character.toNat - 48) else none

/-- The number that a list of digits writes, other characters counting as zero. -/
def digitsValue (digits : List Char) : Nat :=
  digits.foldl (fun value digit => value * 10 + (digitValue? digit).getD 0) 0

/-- A number with at least `width` digits, filled up with zeros on the left. -/
def zeroPadded (width number : Nat) : String :=
  let digits := (toString number).toList
  String.ofList (List.replicate (width - digits.length) '0' ++ digits)

/-- The least number of 32 bits with a sign. -/
def leastInt32 : Int := -2147483648

/-- The greatest number of 32 bits with a sign. -/
def greatestInt32 : Int := 2147483647

/-- Why a text is not a number of 32 bits. -/
inductive NumberFlaw where
  | empty
  | invalidDigit
  | tooLarge
  | tooSmall
  deriving DecidableEq, Repr

def NumberFlaw.message : NumberFlaw → String
  | empty => "cannot parse integer from empty string"
  | invalidDigit => "invalid digit found in string"
  | tooLarge => "number too large to fit in target type"
  | tooSmall => "number too small to fit in target type"

/-- Read digits behind a sign, each step staying within 32 bits. -/
def signedDigits (negative : Bool) (value : Int) : List Char → Except NumberFlaw Int
  | [] => .ok value
  | character :: rest =>
      match digitValue? character with
      | none => .error .invalidDigit
      | some digit =>
          if negative then
            let next := value * 10 - digit
            if next < leastInt32 then .error .tooSmall else signedDigits negative next rest
          else
            let next := value * 10 + digit
            if greatestInt32 < next then .error .tooLarge else signedDigits negative next rest

/-- Read a number of 32 bits: an optional sign and at least one digit. -/
def parseInt32Chars : List Char → Except NumberFlaw Int
  | [] => .error .empty
  | ['+'] => .error .invalidDigit
  | ['-'] => .error .invalidDigit
  | '+' :: digits => signedDigits false 0 digits
  | '-' :: digits => signedDigits true 0 digits
  | digits => signedDigits false 0 digits

/-- Read a number of 32 bits. -/
def parseInt32 (text : String) : Except NumberFlaw Int :=
  parseInt32Chars text.toList

end LogLayout.Text
