import LogLayout.Proofs.Pattern.Reaching

namespace LogLayout.Pattern

/-!
# Moves of a cursor

Everything that reads a pattern moves one cursor, and it can do so in a few ways only.  A move
passes some characters of the text, which may be none.  What it answers is settled by these
characters and by the one behind them: a run is passed up to the first character that does not
belong to it, and of a number the sign and all digits are passed, whatever they are worth.

So a cursor never loses its place.  Whatever moves have been made, in whatever order, its rest is
what stands behind its offset in the text, and every further move answers with the text between
the offset in front of it and the one behind it.
-/

/-- What can be asked of a cursor. -/
inductive Move where
  | current
  | hasMore
  | advance
  | takeUntil (stops : List Char)
  | skipBlanks
  | takeNumber
  | takeWord

/-- What a cursor answers. -/
inductive Answer where
  | seen (character : Option Char)
  | more (left : Bool)
  | taken (character : Char)
  | ended (reached : EndOfText)
  | text (text : String)
  | number (found : Option WrittenNumber)
  | nothing

/-- The number that is written if it fits into 32 bits, and its text if it does not. -/
def NumberText.reading (number : NumberText) : Option WrittenNumber :=
  number.value?.map fun value =>
    if Text.leastInt32 ≤ value ∧ value ≤ Text.greatestInt32 then .within value
    else .beyond (String.ofList number.chars)

theorem NumberText.written_eq_reading (number : NumberText) :
    number.written = number.reading := by
  unfold reading
  cases known : number.value? with
  | some value => exact number.written_of_value known
  | none =>
      have empty : number.digits = [] := by
        by_contra nonempty
        rw [value?, if_neg nonempty] at known
        split at known <;> cases known
      rw [written, empty]
      rfl

/-- What a cursor at an offset answers to a move that passes some characters, in front of another
character or of the end of the text. -/
inductive Answers (position : Nat) : Move → List Char → Option Char → Answer → Prop where
  | current {next : Option Char} : Answers position .current [] next (.seen next)
  | hasMore {next : Option Char} : Answers position .hasMore [] next (.more next.isSome)
  | taken {character : Char} {next : Option Char} :
    Answers position .advance [character] next (.taken character)
  | ended : Answers position .advance [] none (.ended ⟨position⟩)
  | takeUntil {stops text : List Char} {next : Option Char}
    (inside : ∀ character ∈ text, character ∉ stops)
    (maximal : ∀ character ∈ next, character ∈ stops) :
    Answers position (.takeUntil stops) text next (.text (String.ofList text))
  | skipBlanks {blanks : List Char} {next : Option Char}
    (inside : ∀ character ∈ blanks, Text.isBlank character = true)
    (maximal : ∀ character ∈ next, Text.isBlank character = false) :
    Answers position .skipBlanks blanks next .nothing
  | takeNumber (number : NumberText) {next : Option Char}
    (maximal : ∀ character ∈ next, number.EndedBy character) :
    Answers position .takeNumber number.chars next (.number number.reading)
  | takeWord {word : List Char} {next : Option Char}
    (inside : ∀ letter ∈ word, Text.isAlphabetic letter = true)
    (maximal : ∀ character ∈ next, Text.isAlphabetic character = false) :
    Answers position .takeWord word next (.text (String.ofList word))

namespace Cursor

/-- Make a move.  At the end of the text there is nothing to advance over, and the cursor stays
where it is. -/
def perform (cursor : Cursor) : Move → Answer × Cursor
  | .current => (.seen cursor.current?, cursor)
  | .hasMore => (.more cursor.hasMore, cursor)
  | .advance =>
      match cursor.advance with
      | .ok (character, behind) => (.taken character, behind)
      | .error reached => (.ended reached, cursor)
  | .takeUntil stops =>
      (.text (String.ofList (cursor.takeUntil stops).1), (cursor.takeUntil stops).2)
  | .skipBlanks => (.nothing, cursor.skipBlanks)
  | .takeNumber => (.number cursor.takeNumber.1, cursor.takeNumber.2)
  | .takeWord => (.text (String.ofList cursor.takeWord.1), cursor.takeWord.2)

/-- The cursor behind some moves. -/
def after (cursor : Cursor) (moves : List Move) : Cursor :=
  moves.foldl (fun cursor move => (cursor.perform move).2) cursor

theorem after_append (cursor : Cursor) (earlier later : List Move) :
    cursor.after (earlier ++ later) = (cursor.after earlier).after later := List.foldl_append

/-! ## What is passed -/

/-- Some characters stand between a cursor and another one further on. -/
structure Passes (cursor : Cursor) (text : List Char) (behind : Cursor) : Prop where
  chars : cursor.rest = text ++ behind.rest
  offset : behind.position = cursor.position + text.length

namespace Passes

variable {cursor behind final : Cursor} {text further : List Char}

theorem refl (cursor : Cursor) : cursor.Passes [] cursor := ⟨rfl, rfl⟩

theorem trans (passes : cursor.Passes text behind) (later : behind.Passes further final) :
    cursor.Passes (text ++ further) final := by
  constructor
  · rw [passes.chars, later.chars, List.append_assoc]
  · rw [later.offset, passes.offset, List.length_append, Nat.add_assoc]

theorem position_le (passes : cursor.Passes text behind) :
    cursor.position ≤ behind.position := by
  rw [passes.offset]
  exact Nat.le_add_right _ _

end Passes

/-- A move passes characters, and it answers as they and the one behind them ask for. -/
theorem exists_answers_perform (cursor : Cursor) (move : Move) :
    ∃ text, cursor.Passes text (cursor.perform move).2 ∧
      Answers cursor.position move text (cursor.perform move).2.rest.head?
        (cursor.perform move).1 := by
  cases move with
  | current => exact ⟨[], .refl cursor, .current⟩
  | hasMore =>
      refine ⟨[], .refl cursor, ?_⟩
      have left : cursor.hasMore = cursor.rest.head?.isSome := by
        rw [hasMore]
        cases cursor.rest <;> rfl
      rw [perform, left]
      exact .hasMore
  | advance =>
      rcases cursor with ⟨position, rest⟩
      cases rest with
      | nil => exact ⟨[], .refl _, .ended⟩
      | cons character rest =>
          have moved : (⟨position, character :: rest⟩ : Cursor).perform .advance =
              (.taken character, ⟨position + 1, rest⟩) := by
            rw [← forward_one position character rest]
            rfl
          rw [moved]
          exact ⟨[character], ⟨rfl, rfl⟩, .taken⟩
  | takeUntil stops =>
      rcases cursor.takeUntil_divides stops with ⟨text, following, divided, taken, inside, maximal⟩
      rw [perform, taken]
      exact ⟨text, ⟨divided, rfl⟩, .takeUntil inside maximal⟩
  | skipBlanks =>
      rcases skipBlanks_divides cursor with ⟨blanks, following, divided, taken, inside, maximal⟩
      rw [perform, taken]
      exact ⟨blanks, ⟨divided, rfl⟩, .skipBlanks inside maximal⟩
  | takeNumber =>
      rcases cursor.takeNumber_divides with ⟨number, following, divided, taken, maximal⟩
      rw [perform, taken, number.written_eq_reading]
      exact ⟨number.chars, ⟨divided, rfl⟩, .takeNumber number maximal⟩
  | takeWord =>
      refine ⟨cursor.run Text.isAlphabetic, ⟨(cursor.run_append_rest _).symm, rfl⟩, ?_⟩
      exact .takeWord (fun _ member => mem_run member) (cursor.head?_behindRun Text.isAlphabetic)

/-! ## Places of a text -/

/-- A cursor stands at a place of a text. -/
structure Within (cursor : Cursor) (text : String) : Prop where
  place : cursor = .inText text cursor.position
  bounded : cursor.position ≤ text.length

theorem within_ofText (text : String) : (ofText text).Within text := ⟨rfl, Nat.zero_le _⟩

section Places

variable {cursor behind : Cursor} {text : String} {passed : List Char}

/-- What is passed from a place of a text leads to another place of the text, and it is the text
between the two. -/
theorem Within.passes (within : cursor.Within text) (passes : cursor.Passes passed behind) :
    behind.Within text ∧
      passed = (excerpt text cursor.position behind.position).toList ∧
      behind.rest.head? = text.toList[behind.position]? := by
  have divided : text.toList.drop cursor.position = passed ++ behind.rest :=
    (congrArg Cursor.rest within.place).symm.trans passes.chars
  have rest : text.toList.drop behind.position = behind.rest := by
    rw [passes.offset, drop_of_divided divided]
  refine ⟨⟨?_, ?_⟩, ?_, ?_⟩
  · rw [inText, rest]
  · have length := congrArg List.length divided
    rw [List.length_drop, List.length_append, String.length_toList] at length
    have bounded := within.bounded
    rw [passes.offset]
    omega
  · rw [passes.offset, toList_excerpt_of_divided divided]
  · rw [← rest, List.head?_drop]

/-- A move leads from a place of a text to a place of the text. -/
theorem Within.perform (within : cursor.Within text) (move : Move) :
    (cursor.perform move).2.Within text ∧
      cursor.position ≤ (cursor.perform move).2.position ∧
      Answers cursor.position move
        (excerpt text cursor.position (cursor.perform move).2.position).toList
        text.toList[(cursor.perform move).2.position]? (cursor.perform move).1 := by
  rcases cursor.exists_answers_perform move with ⟨passed, passes, answers⟩
  rcases within.passes passes with ⟨further, excerpt, next⟩
  rw [← excerpt, ← next]
  exact ⟨further, passes.position_le, answers⟩

/-- Any number of moves does. -/
theorem Within.after (within : cursor.Within text) (moves : List Move) :
    (cursor.after moves).Within text ∧ cursor.position ≤ (cursor.after moves).position := by
  induction moves generalizing cursor with
  | nil => exact ⟨within, Nat.le_refl _⟩
  | cons move others inductionHypothesis =>
      rcases within.perform move with ⟨next, here, -⟩
      rcases inductionHypothesis next with ⟨further, later⟩
      exact ⟨further, Nat.le_trans here later⟩

end Places

/-- A cursor never loses its place.  Behind any moves it stands at an offset of its text that is
not greater than the length of the text, with all that stands there as its rest, and further moves
do not take it back.  Whatever is asked of it next is answered with the text from its offset to
the one that it then has. -/
theorem answers_after (text : String) (earlier : List Move) :
    let cursor := (ofText text).after earlier
    cursor.position ≤ text.length ∧ cursor = .inText text cursor.position ∧
      (∀ later, cursor.position ≤ ((ofText text).after (earlier ++ later)).position) ∧
      ∀ move, Answers cursor.position move
        (excerpt text cursor.position (cursor.perform move).2.position).toList
        text.toList[(cursor.perform move).2.position]? (cursor.perform move).1 := by
  intro cursor
  have within : cursor.Within text := ((within_ofText text).after earlier).1
  refine ⟨within.bounded, within.place, ?_, ?_⟩
  · intro later
    rw [after_append]
    exact (within.after later).2
  · intro move
    exact (within.perform move).2.2

end Cursor
end LogLayout.Pattern
