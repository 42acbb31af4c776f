import LogLayout.Proofs.Pattern.Splitting

namespace LogLayout.Pattern

/-!
# Moving a text

The position of a cursor says how many characters lie behind it.  Reading never looks
at it: if a text stands further behind, the same is read, and every position that is
reported moves along.  This holds for compiling as well, as long as no builder makes
the part of a directive depend on where its percent sign stands.
-/

/-! ## What moves -/

/-- A cursor with more characters behind it. -/
def Cursor.shift (distance : Nat) (cursor : Cursor) : Cursor :=
  ⟨distance + cursor.position, cursor.rest⟩

/-- A head with more characters in front of it. -/
def Head.shift (distance : Nat) (head : Head) : Head :=
  { head with position := distance + head.position }

/-- The fault of a text that stands further behind.  What is wrong with a parameter does
not tell where it stands. -/
def Fault.shift (distance : Nat) : Fault → Fault
  | unknownWord word position => unknownWord word (distance + position)
  | unterminated word position => unterminated word (distance + position)
  | badParameter bad => badParameter bad

/-- The failure of a text that stands further behind. -/
def Failure.shift (distance : Nat) (failure : Failure) : Failure :=
  ⟨failure.fault.shift distance, distance + failure.stopped⟩

/-- What a text comes to that stands further behind. -/
def shiftOutcome {Value : Type} (distance : Nat) :
    Except Failure (Value × Cursor) → Except Failure (Value × Cursor)
  | .error failure => .error (failure.shift distance)
  | .ok (value, behind) => .ok (value, behind.shift distance)

/-- If two steps each move along, so does one behind the other. -/
theorem shiftOutcome_bind {Value Result : Type} (distance : Nat)
    (outcome : Except Failure (Value × Cursor))
    {next moved : Value × Cursor → Except Failure (Result × Cursor)}
    (moves : ∀ value behind,
      moved (value, behind.shift distance) = shiftOutcome distance (next (value, behind))) :
    (shiftOutcome distance outcome).bind moved =
      shiftOutcome distance (outcome.bind next) := by
  rcases outcome with failure | ⟨value, behind⟩
  · rfl
  · exact moves value behind

theorem shiftOutcome_inFrontOf (distance : Nat) (earlier : Compiled)
    (outcome : Except Failure (Compiled × Cursor)) :
    earlier.inFrontOf (shiftOutcome distance outcome) =
      shiftOutcome distance (earlier.inFrontOf outcome) := by
  rcases outcome with failure | ⟨later, behind⟩ <;> rfl

/-! ## Reading -/

section Reading

variable (distance : Nat)

namespace Cursor

theorem behindRun_shift (cursor : Cursor) (test : Char → Bool) :
    (cursor.shift distance).behindRun test = (cursor.behindRun test).shift distance :=
  congrArg (fun position => (⟨position, _⟩ : Cursor)) (Nat.add_assoc _ _ _)

theorem forward_shift (cursor : Cursor) (count : Nat) :
    (cursor.shift distance).forward count = (cursor.forward count).shift distance :=
  congrArg (fun position => (⟨position, _⟩ : Cursor)) (Nat.add_assoc _ _ _)

theorem behindSign_shift (cursor : Cursor) :
    (cursor.shift distance).behindSign = cursor.behindSign.shift distance := by
  have forward := forward_shift distance cursor 1
  unfold behindSign
  split
  next sign =>
    rw [show cursor.rest = _ from sign]
    exact forward
  next unsigned =>
    split
    next sign => exact absurd sign (unsigned _)
    next => rfl

theorem takeNumber_shift (cursor : Cursor) :
    (cursor.shift distance).takeNumber =
      (cursor.takeNumber.1, cursor.takeNumber.2.shift distance) := by
  have sign : (cursor.shift distance).hasSign = cursor.hasSign := rfl
  have digits : (cursor.behindSign.shift distance).run Char.isDigit =
      cursor.behindSign.run Char.isDigit := rfl
  unfold takeNumber
  simp only [sign, behindSign_shift, digits, behindRun_shift]
  cases (cursor.behindSign.run Char.isDigit).isEmpty with
  | true => rfl
  | false =>
      cases Text.parseInt32Chars (if cursor.hasSign = true then
        '-' :: cursor.behindSign.run Char.isDigit else cursor.behindSign.run Char.isDigit) <;> rfl

end Cursor

theorem takeLengths_shift (cursor : Cursor) :
    takeLengths (cursor.shift distance) =
      ((takeLengths cursor).1, (takeLengths cursor).2.1,
        (takeLengths cursor).2.2.shift distance) := by
  unfold takeLengths
  simp only [Cursor.takeNumber_shift]
  have rest : (cursor.takeNumber.2.shift distance).rest = cursor.takeNumber.2.rest := rfl
  rw [rest]
  split
  next => simp only [Cursor.forward_shift, Cursor.takeNumber_shift]
  next => rfl

theorem mapError_checkLengths (word : String) (least greatest : Option WrittenNumber) :
    (checkLengths word least greatest).mapError (Fault.shift distance) =
      checkLengths word least greatest := by
  have single (length : Option WrittenNumber) :
      (checkLength word length).mapError (Fault.shift distance) = checkLength word length := by
    unfold checkLength
    split
    next => rfl
    next => split <;> rfl
    next => rfl
  change ((checkLength word least).bind fun least => (checkLength word greatest).bind
    fun greatest => .ok (Lengths.mk least greatest)).mapError _ = _
  simp only [mapError_bind, single]
  rfl

theorem readHead_shift (position : Nat) (cursor : Cursor) :
    readHead (distance + position) (cursor.shift distance) =
      (((readHead position cursor).1.map (Head.shift distance)).mapError
        (Fault.shift distance), (readHead position cursor).2.shift distance) := by
  unfold readHead
  simp only [takeLengths_shift, Cursor.takeWord, Cursor.takeRun, Cursor.behindRun_shift]
  generalize (takeLengths cursor).2.2 = behind
  have word : (behind.shift distance).run Text.isAlphabetic = behind.run Text.isAlphabetic := rfl
  simp only [word]
  rcases Bool.eq_false_or_eq_true (behind.run Text.isAlphabetic).isEmpty with empty | empty
  · have rest : ((behind.behindRun Text.isAlphabetic).shift distance).rest =
      (behind.behindRun Text.isAlphabetic).rest := rfl
    rcases Bool.eq_false_or_eq_true (behind.behindRun Text.isAlphabetic).rest.isEmpty with
      ended | ended
    · simp only [empty, rest, ended, if_true]
      rfl
    · simp only [empty, rest, ended, if_true, Bool.false_eq_true, if_false]
      rfl
  · simp only [empty, Bool.false_eq_true, if_false]
    generalize String.ofList (behind.run Text.isAlphabetic) = name
    have unmoved := mapError_checkLengths distance name (takeLengths cursor).1
      (takeLengths cursor).2.1
    cases checked : checkLengths name (takeLengths cursor).1 (takeLengths cursor).2.1 with
    | ok lengths => rfl
    | error fault =>
        rw [checked] at unmoved
        have same : fault.shift distance = fault := Except.error.inj unmoved
        exact congrArg (fun fault => (Except.error fault, _)) same.symm

theorem endParameter_shift (cursor : Cursor) :
    endParameter (cursor.shift distance) =
      ((endParameter cursor).1, (endParameter cursor).2.shift distance) := by
  rcases cursor with ⟨position, rest⟩
  cases rest with
  | nil => rfl
  | cons ending following =>
      change endParameter ⟨distance + position, ending :: following⟩ = _
      rw [endParameter_cons, endParameter_cons]
      rfl

theorem readParameter_shift (cursor : Cursor) :
    readParameter (cursor.shift distance) =
      ((readParameter cursor).1, (readParameter cursor).2.1,
        (readParameter cursor).2.2.shift distance) := by
  have blanks (here : Cursor) :
      (here.shift distance).skipBlanks = here.skipBlanks.shift distance :=
    Cursor.behindRun_shift distance here Text.isBlank
  have run (here : Cursor) (test : Char → Bool) :
      (here.shift distance).run test = here.run test := rfl
  unfold readParameter
  simp only [blanks]
  generalize cursor.skipBlanks = start
  have startRest : (start.shift distance).rest = start.rest := rfl
  rw [startRest]
  split
  next rest quoted =>
    simp only [Cursor.forward_shift, Cursor.takeUntil, Cursor.takeRun, Cursor.behindRun_shift, run]
    generalize (start.forward 1).behindRun _ = behind
    have behindRest : (behind.shift distance).rest = behind.rest := rfl
    rw [behindRest]
    split
    next => rfl
    next => simp only [blanks, endParameter_shift]
  next =>
    simp only [Cursor.takeUntil, Cursor.takeRun, Cursor.behindRun_shift, run, endParameter_shift]

/-- A list of parameters that stands further behind. -/
def ParameterList.shift (list : ParameterList) : ParameterList :=
  { list with cursor := list.cursor.shift distance }

theorem readParameterList_shift (cursor : Cursor) :
    readParameterList (cursor.shift distance) = (readParameterList cursor).shift distance := by
  have moved := readParameter_shift distance cursor
  fun_induction readParameterList cursor with
  | case1 cursor parameter behind read =>
      rw [read] at moved
      rw [readParameterList]
      split
      next here => rw [moved] at here; cases here; rfl
      next here => rw [moved] at here; cases here
      next here => rw [moved] at here; cases here
  | case2 cursor parameter behind read =>
      rw [read] at moved
      rw [readParameterList]
      split
      next here => rw [moved] at here; cases here
      next here => rw [moved] at here; cases here; rfl
      next here => rw [moved] at here; cases here
  | case3 cursor parameter behind read shorter others inductionHypothesis =>
      rw [read] at moved
      rw [readParameterList]
      split
      next here => rw [moved] at here; cases here
      next here => rw [moved] at here; cases here
      next here =>
        rw [moved] at here
        cases here
        rw [inductionHypothesis (readParameter_shift distance behind)]
        rfl

theorem readParameters_shift (cursor : Cursor) :
    readParameters (cursor.shift distance) = (readParameters cursor).shift distance := by
  unfold readParameters
  have rest : (cursor.shift distance).rest = cursor.rest := rfl
  rw [rest]
  split
  next => rw [Cursor.forward_shift, readParameterList_shift]
  next => rfl

end Reading

/-! ## Compiling -/

/-- The same directive at another position. -/
def Spec.moveTo (spec : Spec) (position : Nat) : Spec :=
  { spec with head := { spec.head with position := position } }

/-- A builder does not look at the position of a directive. -/
def Builder.PositionBlind (builder : Builder) : Prop :=
  ∀ spec context position,
    builder.build (spec.moveTo position) context = builder.build spec context

/-- No builder of a registry looks at the position of a directive. -/
def Registry.PositionBlind (registry : Registry) : Prop :=
  ∀ name builder, registry.resolve? name = some builder → builder.PositionBlind

section Compiling

variable {registry : Registry} (context : Context) (distance : Nat)

theorem closeInside_shift (head : Head) (inside : Compiled) (cursor : Cursor) :
    closeInside (head.shift distance) inside (cursor.shift distance) =
      shiftOutcome distance (closeInside head inside cursor) := by
  rcases cursor with ⟨position, rest⟩
  cases rest with
  | nil => rfl
  | cons closer others =>
      exact congrArg (fun cursor => Except.ok (some inside, cursor))
        (Cursor.forward_shift distance ⟨position, closer :: others⟩ 1)

theorem Builder.instantiate_moveTo {builder : Builder} (blind : builder.PositionBlind)
    (spec : Spec) (position : Nat) :
    builder.instantiate (spec.moveTo position) context = builder.instantiate spec context := by
  unfold instantiate
  exact congrArg (· >>= _) (blind spec context position)

theorem Builder.instantiate_shift {builder : Builder} (blind : builder.PositionBlind)
    (head : Head) (parameters : List String) (inside : Option Compiled) :
    builder.instantiate ⟨head.shift distance, parameters, inside⟩ context =
      builder.instantiate ⟨head, parameters, inside⟩ context :=
  builder.instantiate_moveTo context blind ⟨head, parameters, inside⟩ (distance + head.position)

theorem Builder.compileTail_shift {builder : Builder} (blind : builder.PositionBlind)
    (head : Head) (inside : Option Compiled) (cursor : Cursor) :
    builder.compileTail context (head.shift distance) inside (cursor.shift distance) =
      shiftOutcome distance (builder.compileTail context head inside cursor) := by
  unfold compileTail
  simp only [readParameters_shift, ParameterList.shift,
    builder.instantiate_shift context distance blind]
  split
  next =>
    cases builder.instantiate ⟨head, (readParameters cursor).parameters, inside⟩ context <;> rfl
  next => rfl

theorem compileInside_shift (head : Head) (builder : Builder) (cursor : Cursor)
    (shorter : ∀ inner : Cursor, inner.rest.length < cursor.rest.length →
      registry.compileUntil context (some ')') (inner.shift distance) =
        shiftOutcome distance (registry.compileUntil context (some ')') inner)) :
    registry.compileInside context (head.shift distance) builder (cursor.shift distance) =
      shiftOutcome distance (registry.compileInside context head builder cursor) := by
  by_cases opened : builder.encloses = true ∧ cursor.rest.head? = some '('
  · rcases cursor with ⟨position, rest⟩
    rcases List.head?_eq_some_iff.mp opened.2 with ⟨inner, rfl⟩
    rw [compileInside_opened opened.1]
    change registry.compileInside context _ builder ⟨distance + position, '(' :: inner⟩ = _
    rw [compileInside_opened opened.1]
    refine (congrArg (fun outcome => Except.bind outcome _)
      (shorter ⟨position + 1, inner⟩ (Nat.lt_succ_self _))).trans ?_
    exact shiftOutcome_bind distance _ fun inside behind =>
      closeInside_shift distance head inside behind
  · have unopened : ¬(builder.encloses = true ∧
        (cursor.shift distance).rest.head? = some '(') := opened
    rw [compileInside_unopened opened, compileInside_unopened unopened]
    rfl

theorem compileDirective_shift (blind : registry.PositionBlind) (position : Nat)
    (cursor : Cursor)
    (shorter : ∀ inner : Cursor, inner.rest.length < cursor.rest.length →
      registry.compileUntil context (some ')') (inner.shift distance) =
        shiftOutcome distance (registry.compileUntil context (some ')') inner)) :
    registry.compileDirective context (distance + position) (cursor.shift distance) =
      shiftOutcome distance (registry.compileDirective context position cursor) := by
  have bound := length_readHead_le position cursor
  unfold Registry.compileDirective
  rw [readHead_shift]
  generalize readHead position cursor = read at bound ⊢
  rcases read with ⟨fault | head, behind⟩
  · rfl
  · simp only [Except.map, mapError_ok]
    have word : (head.shift distance).word = head.word := rfl
    rw [word]
    cases resolved : registry.resolve? head.word with
    | none => rfl
    | some builder =>
        dsimp only
        rw [compileInside_shift context distance head builder behind fun inner small =>
          shorter inner (Nat.lt_of_lt_of_le small bound)]
        exact shiftOutcome_bind distance _ fun inside behind =>
          builder.compileTail_shift context distance (blind _ builder resolved) head inside behind

/-- A text that stands further behind is compiled alike, behind its literal text. -/
theorem compileUntil_shift_of_lead (blind : registry.PositionBlind) {closing : Option Char}
    {rest : List Char} (lead : Registry.Lead closing rest)
    (shorter : ∀ (other : Option Char) (cursor : Cursor), cursor.rest.length < rest.length →
      registry.compileUntil context other (cursor.shift distance) =
        shiftOutcome distance (registry.compileUntil context other cursor)) (position : Nat) :
    registry.compileUntil context closing ⟨distance + position, rest⟩ =
      shiftOutcome distance (registry.compileUntil context closing ⟨position, rest⟩) := by
  cases lead with
  | stop stopped =>
      rw [registry.compileUntil_stop context stopped, registry.compileUntil_stop context stopped]
      rfl
  | @percent following =>
      rw [registry.compileUntil_percent, registry.compileUntil_percent, ← shiftOutcome_inFrontOf,
        ← shorter closing ⟨position + 2, following⟩ (Nat.lt_add_of_pos_right Nat.two_pos)]
      rfl
  | @directive following distinct =>
      rw [registry.compileUntil_directive context distinct,
        registry.compileUntil_directive context distinct]
      have moved := compileDirective_shift context distance blind position
        ⟨position + 1, following⟩ fun inner small =>
          shorter (some ')') inner (Nat.lt_succ_of_lt small)
      refine (congrArg (fun outcome => Except.bind outcome _) moved).trans ?_
      cases first : registry.compileDirective context position ⟨position + 1, following⟩ with
      | error failure => rfl
      | ok directive =>
          have fewer := length_lt_of_compileDirective first
          have later := shorter closing directive.2 fewer
          simp only [shiftOutcome, Except.bind, later]
          exact shiftOutcome_inFrontOf distance _ _

/-- A text that stands further behind is compiled to the same parts, or fails with the
same fault further behind. -/
theorem compileUntil_shift (blind : registry.PositionBlind) (closing : Option Char)
    (cursor : Cursor) :
    registry.compileUntil context closing (cursor.shift distance) =
      shiftOutcome distance (registry.compileUntil context closing cursor) := by
  induction closing, cursor using Registry.leadInduction with
  | piece closing position text following plain maximal lead shorter =>
      have moved := compileUntil_shift_of_lead context distance blind lead shorter
        (position + text.length)
      change registry.compileUntil context closing ⟨distance + position, text ++ following⟩ = _
      rw [registry.compileUntil_literal context plain maximal,
        registry.compileUntil_literal context plain maximal, Nat.add_assoc, moved,
        shiftOutcome_inFrontOf]

end Compiling

end LogLayout.Pattern
