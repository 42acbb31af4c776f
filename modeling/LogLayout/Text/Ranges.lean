namespace LogLayout.Text

/-!
Tables of code points.

A character class of the Unicode standard is a long list of ranges.  Such a list
is written as a text of hexadecimal numbers, either single or as `first-last`,
with blanks between them; the reader below turns it into pairs of ends.
-/

/-- A set of code points, as closed ranges. -/
abbrev Ranges := Array (Nat × Nat)

namespace Ranges

/-- What has been read of a table: the ranges so far, the number before a
hyphen, and the number that is being read. -/
private structure Progress where
  ranges : Ranges
  first : Option Nat
  number : Option Nat

/-- Close the range that is being read, if there is one. -/
private def Progress.close (progress : Progress) : Progress :=
  match progress.number with
  | none => progress
  | some last => ⟨progress.ranges.push (progress.first.getD last, last), none, none⟩

/-- The value of an upper-case hexadecimal digit. -/
def hexDigit? (character : Char) : Option Nat :=
  if '0' ≤ character && character ≤ '9' then some (character.toNat - 48)
  else if 'A' ≤ character && character ≤ 'F' then some (character.toNat - 55)
  else none

/-- Take one character of a table into account. -/
private def Progress.step (progress : Progress) (character : Char) : Progress :=
  match hexDigit? character with
  | some digit => { progress with number := some (progress.number.getD 0 * 16 + digit) }
  | none =>
      if character == '-' then { progress with first := progress.number, number := none }
      else progress.close

def ofText (table : String) : Ranges :=
  (table.foldl Progress.step ⟨#[], none, none⟩).close.ranges

/-- Whether a code point lies in one of the ranges. -/
def contains (ranges : Ranges) (code : Nat) : Bool :=
  ranges.any fun (first, last) => first ≤ code && code ≤ last

end Ranges
end LogLayout.Text
