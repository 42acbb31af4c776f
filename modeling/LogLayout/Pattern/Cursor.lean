import LogLayout.Text.Alphabetic
import LogLayout.Text.Blank
import LogLayout.Text.Decimal

namespace LogLayout.Pattern

/-!
A place in the text of a pattern.

A cursor holds the number of characters behind it and the characters before it.
It only moves forward: every reading step returns what it took and a cursor whose
characters are the rest, so that nothing is skipped and nothing is read twice.
-/

/-- A place in a text: how many characters lie behind it, and the rest. -/
structure Cursor where
  position : Nat
  rest : List Char
  deriving DecidableEq, Repr

/-- A number as it is written in front of a word: one of 32 bits, or the text of
one that is too large for that. -/
inductive WrittenNumber where
  | within (value : Int)
  | beyond (text : String)
  deriving DecidableEq, Repr

/-- There is no character to take at a position. -/
structure EndOfText where
  position : Nat
  deriving DecidableEq, Repr

def EndOfText.message (reached : EndOfText) : String :=
  s!"unexpected end of input at position {reached.position}"

namespace Cursor

def ofText (text : String) : Cursor := ⟨0, text.toList⟩

def current? (cursor : Cursor) : Option Char := cursor.rest.head?

/-- Whether there are characters left. -/
def hasMore (cursor : Cursor) : Bool := !cursor.rest.isEmpty

/-- The cursor behind the first `count` characters that are left. -/
def forward (cursor : Cursor) (count : Nat) : Cursor :=
  ⟨cursor.position + min count cursor.rest.length, cursor.rest.drop count⟩

def advance (cursor : Cursor) : Except EndOfText (Char × Cursor) :=
  match cursor.rest with
  | [] => .error ⟨cursor.position⟩
  | character :: _ => .ok (character, cursor.forward 1)

/-- The longest run of characters that satisfy a test. -/
def run (cursor : Cursor) (test : Char → Bool) : List Char :=
  cursor.rest.takeWhile test

/-- The cursor behind the longest run of characters that satisfy a test. -/
def behindRun (cursor : Cursor) (test : Char → Bool) : Cursor :=
  ⟨cursor.position + (cursor.run test).length, cursor.rest.dropWhile test⟩

/-- Take the longest run of characters that satisfy a test. -/
def takeRun (cursor : Cursor) (test : Char → Bool) : List Char × Cursor :=
  (cursor.run test, cursor.behindRun test)

/-- Take everything before the first of some characters. -/
def takeUntil (cursor : Cursor) (stops : List Char) : List Char × Cursor :=
  cursor.takeRun fun character => !stops.contains character

def skipBlanks (cursor : Cursor) : Cursor := cursor.behindRun Text.isBlank

def takeWord (cursor : Cursor) : List Char × Cursor := cursor.takeRun Text.isAlphabetic

def behindSign (cursor : Cursor) : Cursor :=
  match cursor.rest with
  | '-' :: _ => cursor.forward 1
  | _ => cursor

/-- Whether a minus sign stands at a cursor. -/
def hasSign (cursor : Cursor) : Bool := cursor.rest.head? = some '-'

/-- Take an optional minus sign and digits.  Without a digit there is no number,
though a sign is taken. -/
def takeNumber (cursor : Cursor) : Option WrittenNumber × Cursor :=
  let digits := cursor.behindSign.run Char.isDigit
  let behind := cursor.behindSign.behindRun Char.isDigit
  if digits.isEmpty then (none, behind)
  else
    let text := if cursor.hasSign then '-' :: digits else digits
    match Text.parseInt32Chars text with
    | .ok value => (some (.within value), behind)
    | .error _ => (some (.beyond (String.ofList text)), behind)

/-! ## What the steps consume -/

/-- A run and the rest behind it make up the characters that were left. -/
theorem run_append_rest (cursor : Cursor) (test : Char → Bool) :
    cursor.run test ++ (cursor.behindRun test).rest = cursor.rest :=
  List.takeWhile_append_dropWhile

/-- No step adds characters: a run leaves at most as many as there were. -/
theorem length_behindRun_le (cursor : Cursor) (test : Char → Bool) :
    (cursor.behindRun test).rest.length ≤ cursor.rest.length :=
  (List.dropWhile_sublist _).length_le

theorem length_forward (cursor : Cursor) (count : Nat) :
    (cursor.forward count).rest.length = cursor.rest.length - count :=
  List.length_drop

theorem length_behindSign_le (cursor : Cursor) :
    cursor.behindSign.rest.length ≤ cursor.rest.length := by
  unfold behindSign
  split
  · rw [length_forward]
    omega
  · exact Nat.le_refl _

theorem length_takeNumber_le (cursor : Cursor) :
    cursor.takeNumber.2.rest.length ≤ cursor.rest.length := by
  have bound := Nat.le_trans (length_behindRun_le cursor.behindSign Char.isDigit)
    cursor.length_behindSign_le
  unfold takeNumber
  dsimp only
  split
  · exact bound
  · split <;> exact bound

end Cursor
end LogLayout.Pattern
