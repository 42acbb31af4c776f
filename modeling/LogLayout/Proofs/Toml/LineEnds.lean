import LogLayout.Toml.Text

namespace LogLayout.Toml

/-!
# Other line ends

A line of a document may end with a line feed or with a carriage return in front of one, and the
last line may do without an end.  Readers do not tell the difference: what they take of a text
they also take of one with other line ends, with the same value.

A carriage return of its own is no line end, and no reader passes it.  So nothing has to be known
of what stands behind one.
-/

/-! ## Texts with the same lines -/

/-- A text, and one whose line ends have no carriage returns and which may have one more line end
behind its last line.  Where a carriage return stands alone, any texts may follow. -/
inductive SameLines : List Char → List Char → Prop where
  | nil : SameLines [] []
  | ended : SameLines [] ['\n']
  | feed {text other : List Char} (behind : SameLines text other) :
    SameLines ('\r' :: '\n' :: text) ('\n' :: other)
  | keep {character : Char} {text other : List Char} (plain : character ≠ '\r')
    (behind : SameLines text other) : SameLines (character :: text) (character :: other)
  | stray {text other : List Char} (lone : text.head? ≠ some '\n') :
    SameLines ('\r' :: text) ('\r' :: other)

namespace SameLines

variable {text other rest : List Char} {character : Char}

/-- What stands in front of a text stands in front of the other one, if it is no line end. -/
theorem exists_behind (same : SameLines (character :: text) other) (plain : character ≠ '\r') :
    ∃ behind, other = character :: behind ∧ SameLines text behind := by
  cases same with
  | feed behind => exact absurd rfl plain
  | keep _ behind => exact ⟨_, rfl, behind⟩
  | stray lone => exact absurd rfl plain

theorem exists_ahead (same : SameLines text (character :: other)) (plain : character ≠ '\r')
    (noFeed : character ≠ '\n') : ∃ rest, text = character :: rest := by
  cases same with
  | ended => exact absurd rfl noFeed
  | feed => exact absurd rfl noFeed
  | keep => exact ⟨_, rfl⟩
  | stray => exact absurd rfl plain

/-- What stands in front of a text without a line end stands in front of the other one. -/
theorem exists_append (same : SameLines text other) (front : List Char) {behind : List Char}
    (divided : text = front ++ behind) (noReturn : '\r' ∉ front) :
    ∃ behindToo, other = front ++ behindToo ∧ SameLines behind behindToo := by
  subst divided
  induction front generalizing other with
  | nil => exact ⟨other, rfl, same⟩
  | cons character front inductionHypothesis =>
      rcases List.ne_and_not_mem_of_not_mem_cons noReturn with ⟨first, later⟩
      rcases same.exists_behind first.symm with ⟨others, rfl, tail⟩
      rcases inductionHypothesis later tail with ⟨last, rfl, lines⟩
      exact ⟨last, rfl, lines⟩

/-- The characters of a run are the same, and the texts behind it have the same lines. -/
theorem dropWhile (same : SameLines text other) {test : Char → Bool}
    (noFeed : test '\n' = false) (noReturn : test '\r' = false) :
    text.takeWhile test = other.takeWhile test ∧
      SameLines (text.dropWhile test) (other.dropWhile test) := by
  induction same with
  | nil => exact ⟨rfl, .nil⟩
  | ended => simp [noFeed, SameLines.ended]
  | feed behind inductionHypothesis => simpa [noFeed, noReturn] using behind.feed
  | @keep character text other plain behind inductionHypothesis =>
      cases taken : test character with
      | true => simpa [taken] using inductionHypothesis
      | false => simpa [taken] using behind.keep plain
  | stray lone => simpa [noReturn] using .stray lone

/-- Behind some characters of a run, texts have the same lines as well. -/
theorem drop (same : SameLines text other) {test : Char → Bool} (noReturn : test '\r' = false)
    {count : Nat} (within : count ≤ (text.takeWhile test).length) :
    SameLines (text.drop count) (other.drop count) := by
  induction count generalizing text other with
  | zero => exact same
  | succ count inductionHypothesis =>
      cases text with
      | nil => cases within
      | cons character text =>
          cases taken : test character with
          | false => simp [taken] at within
          | true =>
              have plain : character ≠ '\r' := by
                rintro rfl
                rw [noReturn] at taken
                cases taken
              rcases same.exists_behind plain with ⟨behind, rfl, tail⟩
              simp only [List.takeWhile_cons, taken, if_true, List.length_cons,
                Nat.add_le_add_iff_right] at within
              exact inductionHypothesis tail within

/-- Behind a line end of one text stands one of the other. -/
theorem dropNewline? (same : SameLines text other) (ended : Toml.dropNewline? text = some rest) :
    ∃ behind, Toml.dropNewline? other = some behind ∧ SameLines rest behind := by
  cases same with
  | nil => cases ended
  | ended => cases ended
  | feed behind =>
      cases ended
      exact ⟨_, rfl, behind⟩
  | @keep character text other plain behind =>
      by_cases feed : character = '\n'
      · subst feed
        cases ended
        exact ⟨_, rfl, behind⟩
      · simp [Toml.dropNewline?, feed, plain] at ended
  | @stray text other lone =>
      cases text with
      | nil => cases ended
      | cons next rest =>
          have apart : next ≠ '\n' := fun same => lone (by rw [same]; rfl)
          simp [Toml.dropNewline?, apart] at ended

/-- Behind a comment the lines are the same. -/
theorem dropComment (same : SameLines text other) :
    SameLines (Toml.dropComment text) (Toml.dropComment other) := by
  cases same with
  | nil => exact .nil
  | ended => exact .ended
  | feed behind => exact behind.feed
  | @keep character text other plain behind =>
      by_cases comment : character = '#'
      · subst comment
        exact (behind.dropWhile (by decide) (by decide)).2
      · simpa [Toml.dropComment, comment] using behind.keep plain
  | stray lone => exact .stray lone

end SameLines

/-! ## Blank lines and line ends -/

section Lines

variable {text other rest : List Char}

theorem length_dropSpace_le (text : List Char) : (dropSpace text).length ≤ text.length :=
  (List.dropWhile_sublist _).length_le

theorem length_dropComment_le (text : List Char) : (dropComment text).length ≤ text.length := by
  unfold dropComment
  split
  next rest =>
    exact Nat.le_succ_of_le (List.dropWhile_sublist _).length_le
  next => exact Nat.le_refl _

theorem length_dropNewline?_lt (ended : dropNewline? text = some rest) :
    rest.length < text.length := by
  unfold dropNewline? at ended
  split at ended <;> cases ended <;> simp only [List.length_cons] <;> omega

/-- Blanks are the same. -/
theorem SameLines.dropSpace (same : SameLines text other) :
    SameLines (Toml.dropSpace text) (Toml.dropSpace other) :=
  (same.dropWhile (by decide) (by decide)).2

/-- A line end takes at least one character, unless there is no text. -/
theorem length_endLine_lt (ended : endLine text = some rest) (going : text ≠ []) :
    rest.length < text.length := by
  have short := Nat.le_trans (length_dropComment_le (dropSpace text)) (length_dropSpace_le text)
  unfold endLine at ended
  split at ended
  next =>
    cases ended
    exact List.length_pos_iff.mpr going
  next => exact Nat.lt_of_lt_of_le (length_dropNewline?_lt ended) short

/-- Where a line of one text ends, one of the other does. -/
theorem SameLines.endLine (same : SameLines text other) (ended : Toml.endLine text = some rest) :
    ∃ behind, Toml.endLine other = some behind ∧ SameLines rest behind := by
  have lines := same.dropSpace.dropComment
  unfold Toml.endLine at ended ⊢
  generalize Toml.dropComment (Toml.dropSpace text) = first,
    Toml.dropComment (Toml.dropSpace other) = second at lines ended ⊢
  cases first with
  | nil =>
      cases ended
      cases lines with
      | nil => exact ⟨[], rfl, .nil⟩
      | ended => exact ⟨[], rfl, .nil⟩
  | cons character others =>
      rcases lines.dropNewline? ended with ⟨behind, newline, tail⟩
      cases second with
      | nil => cases newline
      | cons => exact ⟨behind, newline, tail⟩

/-- In front of a character that starts no comment and no line end, blank lines and comments
are passed alike, if there are turns enough. -/
theorem SameLines.dropLines {turns others : Nat} {character : Char}
    (same : SameLines text other) (enough : text.length ≤ turns) (enoughToo : other.length ≤ others)
    (reached : Toml.dropLines turns text = character :: rest) (plain : character ≠ '\r')
    (noComment : character ≠ '#') :
    ∃ behind, Toml.dropLines others other = character :: behind ∧ SameLines rest behind ∧
      behind.length < other.length := by
  induction turns generalizing text other others with
  | zero =>
      rw [List.length_eq_zero_iff.mp (Nat.le_zero.mp enough)] at reached
      cases reached
  | succ turns inductionHypothesis =>
      have blanks := same.dropSpace
      have space := length_dropSpace_le text
      have spaceToo := length_dropSpace_le other
      rw [Toml.dropLines] at reached
      cases ended : Toml.dropNewline? (Toml.dropComment (Toml.dropSpace text)) with
      | some following =>
          simp only [ended] at reached
          rcases blanks.dropComment.dropNewline? ended with ⟨next, endedToo, tail⟩
          have shorter := length_dropNewline?_lt ended
          have shorterToo := length_dropNewline?_lt endedToo
          have comment := length_dropComment_le (Toml.dropSpace text)
          have commentToo := length_dropComment_le (Toml.dropSpace other)
          cases others with
          | zero => omega
          | succ others =>
              have fewer : next.length ≤ others := by omega
              rcases inductionHypothesis tail (by omega) fewer reached with
                ⟨behind, done, same, short⟩
              refine ⟨behind, ?_, same, by omega⟩
              rw [Toml.dropLines]
              simp only [endedToo, done]
      | none =>
          simp only [ended] at reached
          rw [reached] at ended blanks
          rcases blanks.exists_behind plain with ⟨behind, divided, tail⟩
          have apart : character ≠ '\n' := by
            rintro rfl
            cases ended
          rw [divided, List.length_cons] at spaceToo
          cases others with
          | zero => omega
          | succ others =>
              refine ⟨behind, ?_, tail, spaceToo⟩
              rw [Toml.dropLines, divided]
              simp [Toml.dropComment, Toml.dropNewline?, noComment, plain, apart]

end Lines

/-! ## Readers -/

/-- What a reader takes of a text it takes of any text with the same lines, and it leaves texts
with the same lines. -/
def IgnoresLineEnds {Value : Type} (read : Reader Value) : Prop :=
  ∀ ⦃text other value rest⦄, SameLines text other → read text = some (value, rest) →
    ∃ behind, read other = some (value, behind) ∧ SameLines rest behind ∧
      behind.length ≤ other.length

end LogLayout.Toml
