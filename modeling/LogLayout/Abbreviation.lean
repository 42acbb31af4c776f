namespace LogLayout.Abbreviation

/-!
Shortening of dotted component names.

A name that is too long has its leading segments cut to their first character,
except for those at the left that still fit into the length asked for.  The last
segment is always whole.
-/

/-- The segments of a dotted name.  There is always at least one. -/
def segments : List Char → List (List Char)
  | [] => [[]]
  | '.' :: rest => [] :: segments rest
  | character :: rest =>
      match segments rest with
      | first :: others => (character :: first) :: others
      | [] => [[character]]

/-- The leading segments, each followed by its dot.  A segment is kept while the
budget covers it, and then costs one more than its length; the first one that
is cut leaves nothing for those after it. -/
def shorten (budget : Int) : List (List Char) → List Char
  | [] => []
  | segment :: rest =>
      if (segment.length : Int) > budget then
        segment.take 1 ++ '.' :: shorten 0 rest
      else
        segment ++ '.' :: shorten (budget - (segment.length + 1)) rest

/-- The characters of a name shortened towards `length` characters.  Two
characters are set aside for every leading segment before any is kept. -/
def abbreviateChars (name : List Char) (length : Nat) : List Char :=
  if name.length ≤ length then name
  else
    let parts := segments name
    let leading := parts.dropLast
    let last := parts.getLast?.getD []
    let budget : Int := length - last.length - 2 * leading.length
    shorten budget leading ++ last

/-- A dotted name shortened towards `length` characters. -/
def abbreviate (name : String) (length : Nat) : String :=
  String.ofList (abbreviateChars name.toList length)

theorem segments_ne_nil (name : List Char) : segments name ≠ [] := by
  fun_cases segments name <;> simp_all

theorem abbreviateChars_of_length_le {name : List Char} {length : Nat}
    (fits : name.length ≤ length) : abbreviateChars name length = name := by
  simp [abbreviateChars, fits]

end LogLayout.Abbreviation
