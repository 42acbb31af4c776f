import LogLayout.Pattern.Directive

namespace LogLayout.Pattern

/-!
Patterns as trees of items.

A pattern is a list of literal texts, doubled percent signs and directives, and a
directive may enclose a pattern of its own.  Which words can enclose one is the
only thing that the reader has to know of them.

Reading goes from left to right and stops at the first fault of the notation.
It then still returns the items that were complete before the fault, those inside
an unfinished directive included: whoever gives the items a meaning may find a
fault in one of them, and that fault comes first.
-/

/-- A piece of a pattern. -/
inductive Item where
  | literal (text : String)
  | percent
  /-- A directive, with the pattern that it encloses and the offset behind it. -/
  | directive (head : Head) (inside : Option (List Item)) (parameters : List String)
    (finish : Nat)
  deriving Repr

/-- What the reader knows of words: nothing for an unknown word, and for a known
one whether it can enclose a pattern. -/
abbrev Vocabulary := String → Option Bool

/-- The result of reading: a value and a cursor that leaves at most `bound`
characters, or a fault, with the items that were complete before it. -/
inductive Reading (Value : Type) (bound : Nat) where
  | complete (value : Value) (cursor : Cursor) (within : cursor.rest.length ≤ bound)
  | broken (items : List Item) (fault : Fault) (cursor : Cursor)

namespace Reading

def widen {Value : Type} {bound wider : Nat} (wide : bound ≤ wider) :
    Reading Value bound → Reading Value wider
  | complete value cursor within => complete value cursor (Nat.le_trans within wide)
  | broken items fault cursor => broken items fault cursor

def prepend {bound : Nat} (earlier : List Item) :
    Reading (List Item) bound → Reading (List Item) bound
  | complete items cursor within => complete (earlier ++ items) cursor within
  | broken items fault cursor => broken (earlier ++ items) fault cursor

end Reading

def literalItems (text : List Char) : List Item :=
  if text.isEmpty then [] else [.literal (String.ofList text)]

/-- The characters that end a literal text. -/
def stops (closing : Option Char) : List Char := '%' :: closing.toList

/-- Finish a directive whose head and enclosed pattern have been read. -/
def readTail (head : Head) (inside : Option (List Item)) (cursor : Cursor) :
    Except Fault Item × Cursor :=
  let list := readParameters cursor
  if list.closed then
    (.ok (.directive head inside list.parameters list.cursor.position), list.cursor)
  else (.error (.unterminated head.word head.position), list.cursor)

/-- The tail of a directive leaves at most as many characters as there were. -/
theorem length_readTail_le (head : Head) (inside : Option (List Item)) (cursor : Cursor) :
    (readTail head inside cursor).2.rest.length ≤ cursor.rest.length := by
  unfold readTail
  dsimp only
  split <;> exact length_readParameters_le cursor

/-- Read items up to `closing` or the end of the text, without taking `closing`. -/
def readItems (vocabulary : Vocabulary) (closing : Option Char) (cursor : Cursor) :
    Reading (List Item) cursor.rest.length :=
  let text := cursor.takeUntil (stops closing)
  have textBound : text.2.rest.length ≤ cursor.rest.length :=
    Cursor.length_behindRun_le _ _
  let lead := literalItems text.1
  match here : text.2.rest with
  | '%' :: '%' :: rest =>
      have : rest.length + 2 ≤ cursor.rest.length := by
        simp only [here, List.length_cons] at textBound
        omega
      ((readItems vocabulary closing ⟨text.2.position + 2, rest⟩).prepend
        (lead ++ [.percent])).widen (by dsimp only; omega)
  | '%' :: rest =>
      have restBound : rest.length + 1 ≤ cursor.rest.length := by
        simpa only [here, List.length_cons] using textBound
      let start : Cursor := ⟨text.2.position + 1, rest⟩
      have headBound : (readHead text.2.position start).2.rest.length ≤ rest.length :=
        length_readHead_le text.2.position start
      match headRead : readHead text.2.position start with
      | (.error fault, behind) => .broken lead fault behind
      | (.ok head, behind) =>
          have behindBound : behind.rest.length ≤ rest.length := by
            simpa only [headRead] using headBound
          match vocabulary head.word with
          | none => .broken lead (.unknownWord head.word head.position) behind
          | some encloses =>
              let inside : Reading (Option (List Item)) behind.rest.length :=
                match opening : behind.rest with
                | '(' :: inner =>
                    if encloses then
                      have innerBound : inner.length + 1 ≤ rest.length := by
                        simpa only [opening, List.length_cons] using behindBound
                      match readItems vocabulary (some ')') ⟨behind.position + 1, inner⟩ with
                      | .broken items fault cursor => .broken items fault cursor
                      | .complete items cursor within =>
                          match cursor.rest with
                          | [] => .broken items (.unterminated head.word head.position) cursor
                          | _ :: _ => .complete (some items) (cursor.forward 1) (by
                              rw [Cursor.length_forward]
                              dsimp only at within
                              simp only [List.length_cons]
                              omega)
                    else .complete none behind (by simp [opening])
                | _ => .complete none behind (by simp_all)
              match inside with
              | .broken items fault cursor => .broken (lead ++ items) fault cursor
              | .complete items ahead within =>
                  have tailBound := length_readTail_le head items ahead
                  match tailRead : readTail head items ahead with
                  | (.error fault, cursor) => .broken (lead ++ items.getD []) fault cursor
                  | (.ok item, ahead') =>
                      have : ahead'.rest.length < cursor.rest.length := by
                        simp only [tailRead] at tailBound
                        omega
                      ((readItems vocabulary closing ahead').prepend (lead ++ [item])).widen
                        (Nat.le_of_lt this)
  | _ => .complete lead text.2 textBound
termination_by cursor.rest.length
decreasing_by all_goals (simp_all; try omega)

def readPattern (vocabulary : Vocabulary) (pattern : String) :
    Reading (List Item) pattern.toList.length :=
  readItems vocabulary none (.ofText pattern)

end LogLayout.Pattern
