namespace LogLayout

/-!
The cutting and padding stage behind the lengths of a directive.

Lengths count characters.  A sign chooses the side: a negative least length pads
on the right, a negative greatest length keeps the end of the text.  The cut
comes before the padding.
-/

/-- The optional least and greatest length of a directive. -/
structure Lengths where
  least : Option Int
  greatest : Option Int
  deriving DecidableEq, Repr

namespace Lengths

/-- No limit on either side. -/
def unlimited : Lengths := ⟨none, none⟩

/-- Whether neither length is given. -/
def isUnlimited (lengths : Lengths) : Bool :=
  lengths.least.isNone && lengths.greatest.isNone

/-- Keep at most `|limit|` characters, the first ones when the limit is not
negative and the last ones otherwise. -/
def cutChars (limit : Int) (text : List Char) : List Char :=
  if text.length ≤ limit.natAbs then text
  else if 0 ≤ limit then text.take limit.natAbs
  else text.drop (text.length - limit.natAbs)

/-- Pad to `|width|` characters with spaces, on the left when the width is not
negative and on the right otherwise. -/
def padChars (width : Int) (text : List Char) : List Char :=
  let padding := List.replicate (width.natAbs - text.length) ' '
  if 0 ≤ width then padding ++ text else text ++ padding

/-- The characters of a text after the cut and the padding. -/
def applyChars (lengths : Lengths) (text : List Char) : List Char :=
  let kept := match lengths.greatest with
    | some limit => cutChars limit text
    | none => text
  match lengths.least with
  | some width => padChars width kept
  | none => kept

/-- Cut a text to its greatest length, then pad it to its least length. -/
def apply (lengths : Lengths) (text : String) : String :=
  String.ofList (lengths.applyChars text.toList)

/-- Padding never removes a character, and it reaches the width. -/
theorem length_padChars (width : Int) (text : List Char) :
    (padChars width text).length = max width.natAbs text.length := by
  unfold padChars
  split <;> simp <;> omega

/-- Cutting keeps at most as many characters as the limit says. -/
theorem length_cutChars (limit : Int) (text : List Char) :
    (cutChars limit text).length = min limit.natAbs text.length := by
  unfold cutChars
  split
  · omega
  · split
    · rw [List.length_take]
    · rw [List.length_drop]
      omega

end Lengths
end LogLayout
