import LogLayout.Lengths
import LogLayout.Pattern.Cursor
import LogLayout.Pattern.Fault

namespace LogLayout.Pattern

/-!
The parts of a directive.

A directive reads `%[least][.greatest]word[(inside)][{parameters}]`.  This module
reads the head, which ends with the word, and the list of parameters.
-/

/-- The head of a directive: where its percent sign stands, its lengths and its
word. -/
structure Head where
  position : Nat
  lengths : Lengths
  word : String
  deriving DecidableEq, Repr

/-! ## The head -/

def takeLengths (cursor : Cursor) :
    Option WrittenNumber × Option WrittenNumber × Cursor :=
  let least := cursor.takeNumber
  match least.2.rest with
  | '.' :: _ =>
      let greatest := (least.2.forward 1).takeNumber
      (least.1, greatest.1, greatest.2)
  | _ => (least.1, none, least.2)

def checkLength (word : String) : Option WrittenNumber → Except Fault (Option Int)
  | none => .ok none
  | some (.within value) =>
      if value.natAbs ≤ greatestLength then .ok (some value)
      else .error (.badParameter ⟨word, toString value, .lengthOutOfRange⟩)
  | some (.beyond text) => .error (.badParameter ⟨word, text, .lengthOutOfRange⟩)

def checkLengths (word : String) (least greatest : Option WrittenNumber) :
    Except Fault Lengths := do
  let least ← checkLength word least
  let greatest ← checkLength word greatest
  pure ⟨least, greatest⟩

/-- Read a head from behind the percent sign at `position`.  A missing word is
noticed before a bad length. -/
def readHead (position : Nat) (cursor : Cursor) : Except Fault Head × Cursor :=
  let lengths := takeLengths cursor
  let word := lengths.2.2.takeWord
  let name := String.ofList word.1
  if word.1.isEmpty then
    if word.2.rest.isEmpty then (.error (.unterminated "" position), word.2)
    else (.error (.unknownWord "" position), word.2)
  else
    ((checkLengths name lengths.1 lengths.2.1).map fun checked => ⟨position, checked, name⟩,
      word.2)

theorem length_takeLengths_le (cursor : Cursor) :
    (takeLengths cursor).2.2.rest.length ≤ cursor.rest.length := by
  have first := cursor.length_takeNumber_le
  unfold takeLengths
  dsimp only
  split
  · refine Nat.le_trans (Cursor.length_takeNumber_le _) ?_
    rw [Cursor.length_forward]
    omega
  · exact first

theorem length_readHead_le (position : Nat) (cursor : Cursor) :
    (readHead position cursor).2.rest.length ≤ cursor.rest.length := by
  have bound : (takeLengths cursor).2.2.takeWord.2.rest.length ≤ cursor.rest.length :=
    Nat.le_trans (Cursor.length_behindRun_le _ _) (length_takeLengths_le cursor)
  unfold readHead
  dsimp only
  split
  · split <;> exact bound
  · exact bound

/-! ## The parameters -/

/-- How reading one parameter ended. -/
inductive ParameterEnd where
  | comma
  | closed
  /-- The text ended first. -/
  | missing
  deriving DecidableEq, Repr

/-- What stands behind a parameter decides whether another one follows. -/
def endParameter (cursor : Cursor) : ParameterEnd × Cursor :=
  match cursor.rest with
  | [] => (.missing, cursor)
  | ',' :: _ => (.comma, cursor.forward 1)
  | _ :: _ => (.closed, cursor.forward 1)

/-- Read one parameter.  Between single quotes it is taken as it is, with blanks
allowed around the quotes; without quotes it reaches to the next comma or closing
brace.  It is missing if its closing quote is. -/
def readParameter (cursor : Cursor) : Option String × ParameterEnd × Cursor :=
  let start := cursor.skipBlanks
  match start.rest with
  | '\x27' :: _ =>
      let quoted := (start.forward 1).takeUntil ['\x27']
      match quoted.2.rest with
      | [] => (none, .missing, quoted.2)
      | _ :: _ =>
          (some (String.ofList quoted.1), endParameter (quoted.2.forward 1).skipBlanks)
  | _ =>
      let bare := start.takeUntil [',', '\x7d']
      (some (String.ofList bare.1), endParameter bare.2)

/-- What ends a parameter leaves fewer characters, unless the text ended. -/
theorem length_endParameter (cursor : Cursor) :
    (endParameter cursor).2.rest.length ≤ cursor.rest.length ∧
      ((endParameter cursor).1 ≠ .missing →
        (endParameter cursor).2.rest.length < cursor.rest.length) := by
  unfold endParameter
  split
  · simp
  next nonempty =>
    simp only [Cursor.length_forward, nonempty]
    simp
  next nonempty =>
    simp only [Cursor.length_forward, nonempty]
    simp

/-- A parameter leaves fewer characters, unless the text ended. -/
theorem length_readParameter (cursor : Cursor) :
    (readParameter cursor).2.2.rest.length ≤ cursor.rest.length ∧
      ((readParameter cursor).2.1 ≠ .missing →
        (readParameter cursor).2.2.rest.length < cursor.rest.length) := by
  have start : cursor.skipBlanks.rest.length ≤ cursor.rest.length :=
    Cursor.length_behindRun_le _ _
  have inside (test : Char → Bool) (here : Cursor) : (here.behindRun test).rest.length ≤
      here.rest.length := Cursor.length_behindRun_le _ _
  unfold readParameter
  dsimp only
  split
  · have quoted := inside (fun character => not (['\x27'].contains character))
      (cursor.skipBlanks.forward 1)
    rw [Cursor.length_forward] at quoted
    split
    · refine ⟨?_, fun ended => absurd rfl ended⟩
      simp only [Cursor.takeUntil, Cursor.takeRun]
      omega
    · have finish := length_endParameter (((cursor.skipBlanks.forward 1).takeUntil
        ['\x27']).2.forward 1).skipBlanks
      have blanks := inside Text.isBlank (((cursor.skipBlanks.forward 1).takeUntil
        ['\x27']).2.forward 1)
      rw [Cursor.length_forward] at blanks
      simp only [Cursor.takeUntil, Cursor.takeRun, Cursor.skipBlanks] at *
      exact ⟨by omega, fun going => by have := finish.2 going; omega⟩
  · have finish := length_endParameter (cursor.skipBlanks.takeUntil [',', '\x7d']).2
    have bare := inside (fun character => not ([',', '\x7d'].contains character))
      cursor.skipBlanks
    simp only [Cursor.takeUntil, Cursor.takeRun] at *
    exact ⟨by omega, fun going => by have := finish.2 going; omega⟩

/-- The parameters that were read, whether their list was closed, and the cursor
behind them. -/
structure ParameterList where
  parameters : List String
  closed : Bool
  cursor : Cursor

def readParameterList (cursor : Cursor) : ParameterList :=
  match read : readParameter cursor with
  | (parameter, .missing, behind) => ⟨parameter.toList, false, behind⟩
  | (parameter, .closed, behind) => ⟨parameter.toList, true, behind⟩
  | (parameter, .comma, behind) =>
      have : behind.rest.length < cursor.rest.length := by
        have bound := (length_readParameter cursor).2
        simp only [read] at bound
        exact bound (by simp)
      let others := readParameterList behind
      ⟨parameter.toList ++ others.parameters, others.closed, others.cursor⟩
termination_by cursor.rest.length

/-- Read the parameters of a directive, if an opening brace stands at the
cursor. -/
def readParameters (cursor : Cursor) : ParameterList :=
  match cursor.rest with
  | '\x7b' :: _ => readParameterList (cursor.forward 1)
  | _ => ⟨[], true, cursor⟩

/-- A list of parameters leaves at most as many characters as there were. -/
theorem length_readParameterList_le (cursor : Cursor) :
    (readParameterList cursor).cursor.rest.length ≤ cursor.rest.length := by
  fun_induction readParameterList cursor with
  | case1 cursor parameter behind read =>
      have bound := (length_readParameter cursor).1
      simpa only [read] using bound
  | case2 cursor parameter behind read =>
      have bound := (length_readParameter cursor).1
      simpa only [read] using bound
  | case3 cursor parameter behind read shorter others inductionHypothesis =>
      exact Nat.le_trans inductionHypothesis (Nat.le_of_lt shorter)

/-- The parameters of a directive leave at most as many characters as there
were. -/
theorem length_readParameters_le (cursor : Cursor) :
    (readParameters cursor).cursor.rest.length ≤ cursor.rest.length := by
  unfold readParameters
  split
  · refine Nat.le_trans (length_readParameterList_le _) ?_
    rw [Cursor.length_forward]
    omega
  · exact Nat.le_refl _

end LogLayout.Pattern
