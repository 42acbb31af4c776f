import LogLayout.Text.Hexadecimal

namespace LogLayout.Json

/-!
Reading JSON from left to right.

A reader takes characters from the front and returns what it read with the rest, or
the first flaw that it met.  Readers never look further than that, so of two flaws
in a text the first one counts.
-/

/-- Takes characters from the front of a text. -/
abbrev Reader (Flaw Value : Type) := List Char → Except Flaw (Value × List Char)

/-- Whether JSON calls a character white space. -/
def isSpace (character : Char) : Bool :=
  character == ' ' || character == '\n' || character == '\t' || character == '\r'

/-- The text without leading white space. -/
def dropSpace (text : List Char) : List Char := text.dropWhile isSpace

/-- The number that four hexadecimal digits write. -/
def unit? (first second third fourth : Char) : Option Nat :=
  Text.hexNumber? [first, second, third, fourth]

/-- The character that a single letter behind a backslash stands for. -/
def escaped? : Char → Option Char
  | '\x22' => some '\x22'
  | '\\' => some '\\'
  | '/' => some '/'
  | 'b' => some '\x08'
  | 'f' => some '\x0c'
  | 'n' => some '\n'
  | 'r' => some '\r'
  | 't' => some '\t'
  | _ => none

/-- Whether a number is the first half of a pair. -/
def isLeadingHalf (unit : Nat) : Bool := 0xD800 ≤ unit && unit ≤ 0xDBFF

/-- Whether a number is the second half of a pair. -/
def isTrailingHalf (unit : Nat) : Bool := 0xDC00 ≤ unit && unit ≤ 0xDFFF

/-- Read the characters of a string from behind its opening quote.  Halves of pairs
have to come in pairs, and control characters have to be escaped. -/
def readCharacters : List Char → Option (List Char × List Char)
  | '\x22' :: rest => some ([], rest)
  | '\\' :: 'u' :: a :: b :: c :: d :: '\\' :: 'u' :: e :: f :: g :: h :: rest => do
      let unit ← unit? a b c d
      if isLeadingHalf unit then
        let second ← unit? e f g h
        if isTrailingHalf second then
          let (text, behind) ← readCharacters rest
          pure (Char.ofNat ((unit - 0xD800) * 1024 + (second - 0xDC00) + 0x10000) :: text,
            behind)
        else none
      else if isTrailingHalf unit then none
      else
        let (text, behind) ← readCharacters ('\\' :: 'u' :: e :: f :: g :: h :: rest)
        pure (Char.ofNat unit :: text, behind)
  | '\\' :: 'u' :: a :: b :: c :: d :: rest => do
      let unit ← unit? a b c d
      if isLeadingHalf unit || isTrailingHalf unit then none
      else
        let (text, behind) ← readCharacters rest
        pure (Char.ofNat unit :: text, behind)
  | '\\' :: letter :: rest => do
      let character ← escaped? letter
      let (text, behind) ← readCharacters rest
      pure (character :: text, behind)
  | '\\' :: [] => none
  | character :: rest =>
      if character.toNat < 0x20 then none
      else do
        let (text, behind) ← readCharacters rest
        pure (character :: text, behind)
  | [] => none

/-! ## Values that are passed over -/

/-- Pass over the characters of a string from behind its opening quote.  Halves of
pairs are not looked at. -/
def skipCharacters : List Char → Option (List Char)
  | '\x22' :: rest => some rest
  | '\\' :: 'u' :: a :: b :: c :: d :: rest =>
      if (unit? a b c d).isSome then skipCharacters rest else none
  | '\\' :: letter :: rest =>
      if (escaped? letter).isSome then skipCharacters rest else none
  | '\\' :: [] => none
  | character :: rest => if character.toNat < 0x20 then none else skipCharacters rest
  | [] => none

/-- Pass over at least one digit. -/
def skipDigits (text : List Char) : Option (List Char) :=
  match text with
  | [] => none
  | digit :: rest => if digit.isDigit then some (rest.dropWhile Char.isDigit) else none

/-- Pass over the whole part of a number: a zero, or digits that do not begin with
one. -/
def skipWhole (text : List Char) : Option (List Char) :=
  match text with
  | '0' :: rest =>
      match rest with
      | digit :: _ => if digit.isDigit then none else some rest
      | [] => some rest
  | _ => skipDigits text

def skipFraction (text : List Char) : Option (List Char) :=
  match text with
  | '.' :: rest => skipDigits rest
  | _ => some text

/-- Pass over an exponent behind its letter. -/
def skipExponentDigits (text : List Char) : Option (List Char) :=
  match text with
  | '+' :: rest => skipDigits rest
  | '-' :: rest => skipDigits rest
  | _ => skipDigits text

def skipExponent (text : List Char) : Option (List Char) :=
  match text with
  | 'e' :: rest => skipExponentDigits rest
  | 'E' :: rest => skipExponentDigits rest
  | _ => some text

def skipNumber (text : List Char) : Option (List Char) := do
  let whole ← match text with
    | '-' :: rest => skipWhole rest
    | _ => skipWhole text
  skipExponent (← skipFraction whole)

/-- A place inside nested values: what may come next, and which brackets are open,
the innermost first (`true` for an object). -/
inductive Expecting where
  | value
  /-- A value or the end of an array. -/
  | valueOrEnd
  /-- A key, or the end of an object if `orEnd`. -/
  | key (orEnd : Bool)
  /-- A comma or the end of the innermost bracket. -/
  | more
  deriving DecidableEq

/-- Pass over a value and whatever it encloses, within a number of turns. -/
def skipNested (expecting : Expecting) (brackets : List Bool) :
    Nat → List Char → Option (List Char)
  | 0, _ => none
  | turns + 1, text =>
      let next (behind : List Char) : Option (List Char) :=
        if brackets.isEmpty then some behind
        else skipNested .more brackets turns behind
      let close (outer : List Bool) (behind : List Char) : Option (List Char) :=
        if outer.isEmpty then some behind else skipNested .more outer turns behind
      match expecting, dropSpace text with
      | .valueOrEnd, ']' :: rest => close brackets.tail rest
      | .key true, '\x7d' :: rest => close brackets.tail rest
      | .key _, '\x22' :: rest =>
          match (skipCharacters rest).map dropSpace with
          | some (':' :: behind) => skipNested .value brackets turns behind
          | _ => none
      | .key _, _ => none
      | .more, ',' :: rest =>
          match brackets with
          | true :: _ => skipNested (.key false) brackets turns rest
          | _ => skipNested .value brackets turns rest
      | .more, ']' :: rest =>
          match brackets with
          | false :: outer => close outer rest
          | _ => none
      | .more, '\x7d' :: rest =>
          match brackets with
          | true :: outer => close outer rest
          | _ => none
      | .more, _ => none
      | _, '[' :: rest => skipNested .valueOrEnd (false :: brackets) turns rest
      | _, '\x7b' :: rest => skipNested (.key true) (true :: brackets) turns rest
      | _, '\x22' :: rest => (skipCharacters rest).bind next
      | _, 't' :: 'r' :: 'u' :: 'e' :: rest => next rest
      | _, 'f' :: 'a' :: 'l' :: 's' :: 'e' :: rest => next rest
      | _, 'n' :: 'u' :: 'l' :: 'l' :: rest => next rest
      | _, others => (skipNumber others).bind next

def skipValue (text : List Char) : Option (List Char) :=
  skipNested .value [] (text.length + 1) text

end LogLayout.Json
