import LogLayout.Proofs.Pattern.Failing

namespace LogLayout.Pattern

/-!
# How far compiling looks ahead

Compiling reads a text once, from left to right, and the furthest character that it looks at
is the one at which it stops.  This holds for a text that compiles and for one that does not:
whatever goes wrong is noticed before anything behind the place is looked at.

So two texts that agree up to that character come to the same.  A fault that was found in
front of the end of a pattern stays, whatever is written behind the pattern.
-/

/-- The offset at which compiling stops, with some parts or with a fault. -/
def stoppedAt : Except Failure (Compiled × Cursor) → Nat
  | .error failure => failure.stopped
  | .ok done => done.2.position

section Lookahead

variable {registry : Registry} {context : Context} {position : Nat}

/-! ## Directives in front of other texts -/

/-- Whether a directive has begun depends on the first character behind it only. -/
theorem Begun.congr {head : HeadText} {inside : Option (List Piece)} {builder : Builder}
    {behind other : List Char}
    (begun : Begun registry context position head inside builder behind)
    (same : other.head? = behind.head?) :
    Begun registry context position head inside builder other := by
  have first := head?_append_congr same (insideChars inside)
  refine ⟨begun.inRange, begun.resolved, ?_, ?_, ?_⟩
  · rw [first]
    exact begun.maximal
  · rw [first]
    exact begun.opened
  · intro inner here
    exact (begun.enclosed inner here).congr rfl

theorem Misnamed.congr {text following other : List Char} {word : String}
    (misnamed : Misnamed registry text word following) (same : other.head? = following.head?) :
    Misnamed registry text word other := by
  cases misnamed with
  | wordless ended unlettered =>
      rcases List.head?_eq_some_iff.mp same with ⟨rest, rfl⟩
      exact .wordless ended unlettered
  | unknown inRange unknown maximal =>
      apply Misnamed.unknown inRange unknown
      rw [same]
      exact maximal

theorem Refused.congr {text following other : List Char} {bad : BadParameter}
    (refused : Refused registry context position text bad following)
    (same : other.head? = following.head?) :
    Refused registry context position text bad other := by
  cases refused with
  | lengths outOfRange maximal =>
      apply Refused.lengths outOfRange
      rw [same]
      exact maximal
  | @parameters head inside parameters builder bad following begun listed built =>
      have first := head?_append_congr same (parameterChars parameters)
      apply Refused.parameters (begun.congr first) _ built
      rw [first]
      exact listed

/-- A directive goes wrong alike in front of any text that starts like the one behind it.  If
it is left open there is no such text. -/
theorem GoesWrong.congr {text following other : List Char} {fault : Fault}
    (wrong : GoesWrong registry context position text fault following)
    (going : following ≠ []) (same : other.head? = following.head?) :
    GoesWrong registry context position text fault other := by
  cases wrong with
  | leftOpen leftOpen => exact absurd rfl going
  | misnamed misnamed => exact .misnamed (misnamed.congr same)
  | refused refused => exact .refused (refused.congr same)

/-! ## Texts that start alike -/

/-- What compiling comes to with another text behind the place where it stops. -/
def withRest (other : List Char) (outcome : Except Failure (Compiled × Cursor)) :
    Except Failure (Compiled × Cursor) :=
  outcome.map fun done => (done.1, ⟨done.2.position, other⟩)

theorem stoppedAt_withRest (other : List Char)
    (outcome : Except Failure (Compiled × Cursor)) :
    stoppedAt (withRest other outcome) = stoppedAt outcome := by
  cases outcome <;> rfl

/-- What is compiled in front of some text is compiled in front of any other one that starts
with the same character. -/
theorem Cuts.compileUntil_congr {closing : Option Char} {cursor behind : Cursor}
    {compiled : Compiled} {pieces : List Piece}
    (cuts : Cuts registry context closing cursor behind compiled pieces) {other : List Char}
    (same : other.head? = behind.rest.head?) :
    registry.compileUntil context closing ⟨cursor.position, pieceChars pieces ++ other⟩ =
      .ok (compiled, ⟨behind.position, other⟩) := by
  rw [cuts.length, cuts.parts]
  exact compileUntil_of_splits (cuts.splits.congr same)

/-- A text that fails within a directive fails in front of any text that starts like the one
behind the place where compiling stops. -/
theorem FailsAt.congr {closing : Option Char} {cursor : Cursor} {opened : List Nat}
    {text following other : List Char} {failure : Failure}
    (fails : FailsAt registry context closing cursor opened position text following failure)
    (going : following ≠ []) (same : other.head? = following.head?) :
    ∃ front, cursor.rest = front ++ '%' :: (text ++ following) ∧
      FailsAt registry context closing ⟨cursor.position, front ++ '%' :: (text ++ other)⟩
        opened position text other failure := by
  rcases fails with ⟨⟨⟨ending, reached⟩, single⟩, wrong, stopped⟩
  have alike : ('%' :: (text ++ other)).head? = ('%' :: (text ++ following)).head? := rfl
  rcases reached.congr alike with ⟨front, divided, moved, -⟩
  refine ⟨front, divided, ⟨⟨ending, moved⟩, ?_⟩, wrong.congr going same, stopped⟩
  rw [head?_append_congr same]
  exact single

/-- A text that fails is read up to the end of the directive that goes wrong. -/
theorem FailsAt.stopped_eq {closing : Option Char} {cursor : Cursor} {opened : List Nat}
    {text following front : List Char} {failure : Failure}
    (fails : FailsAt registry context closing cursor opened position text following failure)
    (divided : cursor.rest = front ++ '%' :: (text ++ following)) :
    failure.stopped = cursor.position + (front ++ '%' :: text).length := by
  rcases fails.opens.exists_front with ⟨front', divided', place⟩
  have same : front' = front := List.append_cancel_right (divided'.symm.trans divided)
  subst same
  rw [fails.stopped, place, List.length_append, List.length_cons]
  omega

/-- Every text divides at the place where compiling it stops.  What stands behind the place
may be replaced by anything that starts with the same character. -/
theorem exists_read (registry : Registry) (context : Context) (closing : Option Char)
    (cursor : Cursor) :
    ∃ front following, cursor.rest = front ++ following ∧
      stoppedAt (registry.compileUntil context closing cursor) =
        cursor.position + front.length ∧
      ∀ other, following ≠ [] → other.head? = following.head? →
        registry.compileUntil context closing ⟨cursor.position, front ++ other⟩ =
          withRest other (registry.compileUntil context closing cursor) := by
  cases outcome : registry.compileUntil context closing cursor with
  | ok done =>
      rcases done with ⟨compiled, behind⟩
      rcases exists_cuts closing cursor compiled behind outcome with ⟨pieces, cuts⟩
      refine ⟨pieceChars pieces, behind.rest, cuts.text, cuts.length, ?_⟩
      intro other _ same
      exact cuts.compileUntil_congr same
  | error failure =>
      rcases (compileUntil_eq_error_iff closing cursor failure).mp outcome with
        ⟨opened, position, text, following, fails⟩
      rcases fails.opens.exists_front with ⟨front, divided, -⟩
      refine ⟨front ++ '%' :: text, following, ?_, fails.stopped_eq divided, ?_⟩
      · rw [divided, List.append_assoc, List.cons_append]
      · intro other going same
        rcases fails.congr going same with ⟨front', divided', fails'⟩
        have same : front = front' := List.append_cancel_right (divided.symm.trans divided')
        subst same
        rw [List.append_assoc, List.cons_append]
        exact (compileUntil_eq_error_iff closing _ failure).mpr ⟨_, _, _, _, fails'⟩

/-- Texts that agree up to an offset and at it are divided there alike. -/
theorem drop_of_agree {first second : String} {start : Nat} {front following : List Char}
    (divided : first.toList.drop start = front ++ following)
    (agree : first.toList.take (start + front.length + 1) =
      second.toList.take (start + front.length + 1)) :
    second.toList.drop start = front ++ second.toList.drop (start + front.length) ∧
      (second.toList.drop (start + front.length)).head? = following.head? := by
  have shorter : first.toList.take (start + front.length) =
      second.toList.take (start + front.length) := by
    have both := congrArg (List.take (start + front.length)) agree
    rwa [List.take_take, List.take_take, Nat.min_eq_left (Nat.le_succ _)] at both
  have here : first.toList[start + front.length]? = second.toList[start + front.length]? := by
    have both : (first.toList.take (start + front.length + 1))[start + front.length]? =
        (second.toList.take (start + front.length + 1))[start + front.length]? := by
      rw [agree]
    rwa [List.getElem?_take_of_lt (Nat.lt_succ_self _),
      List.getElem?_take_of_lt (Nat.lt_succ_self _)] at both
  constructor
  · have cut : (second.toList.drop start).take front.length = front := by
      have between := congrArg (List.drop start) shorter
      rw [List.drop_take, List.drop_take, Nat.add_sub_cancel_left, divided,
        List.take_left] at between
      exact between.symm
    have parts := List.take_append_drop front.length (second.toList.drop start)
    rw [cut, List.drop_drop] at parts
    exact parts.symm
  · rw [List.head?_drop, ← here, ← List.head?_drop, drop_of_divided divided]

/-! ## Two texts -/

/-- Texts that agree up to the place where compiling one of them stops, and at it, are
compiled alike. -/
theorem compileUntil_of_agree {closing : Option Char} {first second : String} {start : Nat}
    (early : stoppedAt (registry.compileUntil context closing (.inText first start)) <
      first.length)
    (agree : first.toList.take
        (stoppedAt (registry.compileUntil context closing (.inText first start)) + 1) =
      second.toList.take
        (stoppedAt (registry.compileUntil context closing (.inText first start)) + 1)) :
    registry.compileUntil context closing (.inText second start) =
      withRest (second.toList.drop
          (stoppedAt (registry.compileUntil context closing (.inText first start))))
        (registry.compileUntil context closing (.inText first start)) := by
  rcases exists_read registry context closing (.inText first start) with
    ⟨front, following, divided, stopped, replaced⟩
  dsimp only [Cursor.inText] at divided stopped replaced early agree ⊢
  rw [stopped] at early agree ⊢
  rcases drop_of_agree divided agree with ⟨text, same⟩
  have going : following ≠ [] := by
    intro ended
    have size := congrArg List.length (drop_of_divided divided)
    rw [ended, List.length_drop, String.length_toList, List.length_nil] at size
    omega
  have replacedHere := replaced (second.toList.drop (start + front.length)) going same
  rw [← text] at replacedHere
  exact replacedHere

end Lookahead

/-- Compiling does not look behind the character at which it stops.  If it stops in front of
the end of a text, then it stops at the same offset of any text that agrees up to this
character, with the same parts or the same fault.  In particular a fault that is found in
front of the end of a pattern stays the fault of the pattern with any other text behind it. -/
theorem compileUntil_lookahead (registry : Registry) (context : Context) :
    (∀ (closing : Option Char) (first second : String) (start stop : Nat),
      stoppedAt (registry.compileUntil context closing (.inText first start)) = stop →
      stop < first.length →
      first.toList.take (stop + 1) = second.toList.take (stop + 1) →
        stoppedAt (registry.compileUntil context closing (.inText second start)) = stop ∧
        registry.compileUntil context closing (.inText second start) =
          (registry.compileUntil context closing (.inText first start)).map fun done =>
            (done.1, .inText second stop)) ∧
    ∀ (pattern more : String) (failure : Failure),
      registry.compileUntil context none (.ofText pattern) = .error failure →
      failure.stopped < pattern.length →
        registry.compileUntil context none (.ofText (pattern ++ more)) = .error failure ∧
        registry.compile context (pattern ++ more) = .error failure.fault := by
  constructor
  · rintro closing first second start stop rfl early agree
    have alike := compileUntil_of_agree early agree
    constructor
    · rw [alike, stoppedAt_withRest]
    · rw [alike, withRest]
      cases outcome : registry.compileUntil context closing (.inText first start) <;> rfl
  · intro pattern more failure failed early
    have stopped : stoppedAt (registry.compileUntil context none (.inText pattern 0)) =
        failure.stopped := congrArg stoppedAt failed
    have agree : pattern.toList.take (failure.stopped + 1) =
        (pattern ++ more).toList.take (failure.stopped + 1) := by
      rw [String.toList_append, List.take_append_of_le_length]
      rw [String.length_toList]
      exact early
    rw [← stopped] at early agree
    have same : registry.compileUntil context none (.ofText (pattern ++ more)) =
        .error failure := by
      refine (compileUntil_of_agree early agree).trans ?_
      rw [show registry.compileUntil context none (.inText pattern 0) = .error failure from failed]
      rfl
    refine ⟨same, ?_⟩
    rw [Registry.compile, same]

/-- A word that nobody knows is reported before the text behind it is looked at, and an
enclosed pattern ends at its parenthesis whatever stands behind that. -/
theorem compileUntil_lookahead_unknown :
    let context : Context := { application := "shop", node := "east", console := .plain }
    Registry.builtin.compile context "%red(%level) %nosuch tail%n\x7bx\x7d" =
        .error (.unknownWord "nosuch" 13) ∧
      stoppedAt (Registry.builtin.compileUntil context (some ')')
        (.inText "%red(%5level) %nosuch" 5)) = 12 := by
  intro context
  have rules := compileUntil_lookahead Registry.builtin context
  constructor
  · have failed : error? (Registry.builtin.compileUntil context none
        (.ofText "%red(%level) %nosuch tail")) = some ⟨.unknownWord "nosuch" 13, 20⟩ := by
      decide +kernel
    have early : 20 < "%red(%level) %nosuch tail".length := by decide
    exact (rules.2 "%red(%level) %nosuch tail" "%n\x7bx\x7d" _
      (eq_error_of_error? failed) early).2
  · have stopped : stoppedAt (Registry.builtin.compileUntil context (some ')')
        (.inText "%red(%5level) tail" 5)) = 12 := by
      decide +kernel
    exact (rules.1 (some ')') "%red(%5level) tail" "%red(%5level) %nosuch" 5 12 stopped
      (by decide) (by decide)).1

end LogLayout.Pattern
