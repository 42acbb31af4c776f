import LogLayout.Proofs.Pattern.Reaching

namespace LogLayout.Pattern

/-!
# How a pattern goes wrong

A pattern that does not compile goes wrong within one of its directives.  Everything in
front of that directive is complete, apart from the directives that enclose it.  There are
three ways to go wrong: the pattern ends while the directive is still open, the directive has
no word or one that nobody knows, or its lengths or parameters are refused.

The relation `GoesWrong` says what a directive looks like in each case, up to the place where
compiling stops.  Like the relation for patterns that compile, it looks at the text alone and
at no more than the first character behind it.  Compiling fails exactly if such a directive is
reached, with its fault and at the end of its text.
-/

/-! ## Directives that go wrong -/

/-- The text of a directive, from behind its percent sign to the end of all text, by which
the directive is left open.  Whatever it encloses is complete, so that no other directive is
open inside of it.  The directive is named by its word, as far as it has one. -/
inductive LeftOpen (registry : Registry) (context : Context) (position : Nat) :
    List Char → String → Prop where
  | beforeWord (least : NumberText) (greatest : Option NumberText) :
    LeftOpen registry context position (least.chars ++ greatestChars greatest) ""
  | inside {head : HeadText} {builder : Builder} {pieces : List Piece}
    (inRange : InRange head.lengths) (resolved : registry.resolve? head.name = some builder)
    (encloses : builder.encloses = true)
    (splits : Splits registry context (some ')') (position + 1 + head.chars.length + 1)
      pieces []) :
    LeftOpen registry context position (head.chars ++ '(' :: pieceChars pieces) head.name
  | inParameters {head : HeadText} {inside : Option (List Piece)} {builder : Builder}
    {text : List Char}
    (begun : Begun registry context position head inside builder ('\x7b' :: text))
    (leavesOpen : LeavesListOpen text) :
    LeftOpen registry context position
      (head.chars ++ (insideChars inside ++ '\x7b' :: text)) head.name

/-- The text of a directive without a word, or with a word that has no builder, in front of
another text. -/
inductive Misnamed (registry : Registry) : List Char → String → List Char → Prop where
  | wordless {least : NumberText} {greatest : Option NumberText} {character : Char}
    {following : List Char} (ended : LengthsEndedBy least greatest character)
    (unlettered : Text.isAlphabetic character = false) :
    Misnamed registry (least.chars ++ greatestChars greatest) "" (character :: following)
  | unknown {head : HeadText} {following : List Char} (inRange : InRange head.lengths)
    (unknown : registry.resolve? head.name = none)
    (maximal : ∀ character ∈ following.head?, Text.isAlphabetic character = false) :
    Misnamed registry head.chars head.name following

/-- The text of a directive that is refused for one of its lengths or by the builder of its
word, in front of another text. -/
inductive Refused (registry : Registry) (context : Context) (position : Nat) :
    List Char → BadParameter → List Char → Prop where
  | lengths {head : HeadText} {bad : BadParameter} {following : List Char}
    (outOfRange : head.checked = .error (.badParameter bad))
    (maximal : ∀ character ∈ following.head?, Text.isAlphabetic character = false) :
    Refused registry context position head.chars bad following
  | parameters {head : HeadText} {inside : Option (List Piece)}
    {parameters : Option ParameterListText} {builder : Builder} {bad : BadParameter}
    {following : List Char}
    (begun : Begun registry context position head inside builder
      (parameterChars parameters ++ following))
    (listed : parameters.isSome = true ↔
      (parameterChars parameters ++ following).head? = some '\x7b')
    (built : builder.instantiate
      ⟨head.head position, parameterValues parameters, inside.map compiledPieces⟩ context =
        .error bad) :
    Refused registry context position
      (head.chars ++ (insideChars inside ++ parameterChars parameters)) bad following

/-- A directive whose percent sign stands at an offset goes wrong with a fault: the text
behind the percent sign has been read then, and another text follows. -/
inductive GoesWrong (registry : Registry) (context : Context) (position : Nat) :
    List Char → Fault → List Char → Prop where
  | leftOpen {text : List Char} {word : String}
    (leftOpen : LeftOpen registry context position text word) :
    GoesWrong registry context position text (.unterminated word position) []
  | misnamed {text following : List Char} {word : String}
    (misnamed : Misnamed registry text word following) :
    GoesWrong registry context position text (.unknownWord word position) following
  | refused {text following : List Char} {bad : BadParameter}
    (refused : Refused registry context position text bad following) :
    GoesWrong registry context position text (.badParameter bad) following

/-! ## They are not compiled -/

section Directives

variable {registry : Registry} {context : Context} {position : Nat}

theorem compileDirective_of_readHead {cursor behind : Cursor} {fault : Fault}
    (read : readHead position cursor = (.error fault, behind)) :
    registry.compileDirective context position cursor = .error ⟨fault, behind.position⟩ := by
  unfold Registry.compileDirective
  rw [read]

/-- A list that is left open is looked through up to the end of the text. -/
theorem compileTail_leftOpen (builder : Builder) (head : Head) (inside : Option Compiled)
    {text : List Char} (leavesOpen : LeavesListOpen text) (start : Nat) :
    builder.compileTail context head inside ⟨start, '\x7b' :: text⟩ =
      .error ⟨.unterminated head.word head.position, start + 1 + text.length⟩ := by
  have unclosed := (closed_eq_false_iff ⟨start + 1, text⟩).mpr leavesOpen
  rcases readParameterList_unclosed _ unclosed with ⟨ended, finish⟩
  rw [Cursor.finish, ended, Cursor.finish] at finish
  unfold Builder.compileTail
  simp only [readParameters_opened, unclosed, Bool.false_eq_true, if_false]
  exact congrArg (fun stopped => Except.error (Failure.mk _ stopped)) finish

theorem LeftOpen.compileDirective {text : List Char} {word : String}
    (leftOpen : LeftOpen registry context position text word) :
    registry.compileDirective context position ⟨position + 1, text⟩ =
      .error ⟨.unterminated word position, position + 1 + text.length⟩ := by
  cases leftOpen with
  | beforeWord least greatest =>
      have read := readHead_wordless least greatest []
        (fun _ first => absurd first (Option.not_mem_none _))
        (fun _ first => absurd first (Option.not_mem_none _)) position (position + 1)
      rw [List.append_nil] at read
      exact compileDirective_of_readHead read
  | @inside head builder pieces inRange resolved encloses splits =>
      have enclosed := compileUntil_of_splits splits
      rw [List.append_nil] at enclosed
      rw [compileDirective_head head inRange resolved
          (fun character first => by cases first; decide),
        compileInside_opened encloses, enclosed]
      simp only [Except.bind, closeInside, List.length_append, List.length_cons]
      congr 2
      omega
  | @inParameters head inside builder text begun leavesOpen =>
      rw [begun.compileDirective, compileTail_leftOpen builder _ _ leavesOpen]
      simp only [List.length_append, List.length_cons]
      congr 2
      omega

theorem Misnamed.compileDirective {text following : List Char} {word : String}
    (misnamed : Misnamed registry text word following) :
    registry.compileDirective context position ⟨position + 1, text ++ following⟩ =
      .error ⟨.unknownWord word position, position + 1 + text.length⟩ := by
  cases misnamed with
  | @wordless least greatest character following ended unlettered =>
      have read := readHead_wordless least greatest (character :: following)
        (fun _ first => by cases first; exact ended)
        (fun _ first => by cases first; exact unlettered) position (position + 1)
      rw [List.append_assoc]
      exact compileDirective_of_readHead read
  | @unknown head following inRange unknown maximal =>
      rw [compileDirective_of_inRange head inRange maximal, unknown]

theorem Refused.compileDirective {text following : List Char} {bad : BadParameter}
    (refused : Refused registry context position text bad following) :
    registry.compileDirective context position ⟨position + 1, text ++ following⟩ =
      .error ⟨.badParameter bad, position + 1 + text.length⟩ := by
  cases refused with
  | @lengths head bad following outOfRange maximal =>
      have read := head.readHead_word maximal position (position + 1)
      rw [outOfRange] at read
      exact compileDirective_of_readHead read
  | @parameters head inside parameters builder bad following begun listed built =>
      have unlisted : parameters = none → following.head? ≠ some '\x7b' := by
        rintro rfl brace
        exact Bool.false_ne_true (listed.mpr brace)
      rw [List.append_assoc, List.append_assoc, begun.compileDirective,
        compileTail_append builder _ _ parameters unlisted, built]
      simp only [mapError_error, Except.map, List.length_append]
      congr 2
      omega

/-- A directive that goes wrong is not compiled, and compiling stops behind its text. -/
theorem GoesWrong.compileDirective {text following : List Char} {fault : Fault}
    (wrong : GoesWrong registry context position text fault following) :
    registry.compileDirective context position ⟨position + 1, text ++ following⟩ =
      .error ⟨fault, position + 1 + text.length⟩ := by
  cases wrong with
  | leftOpen leftOpen =>
      rw [List.append_nil]
      exact leftOpen.compileDirective
  | misnamed misnamed => exact misnamed.compileDirective
  | refused refused => exact refused.compileDirective

/-! ## What is not compiled goes wrong -/

/-- The tail of a directive fails because its list is left open or because the directive is
refused. -/
theorem compileTail_error_cases {builder : Builder} {head : Head} {inside : Option Compiled}
    {cursor : Cursor} {failure : Failure}
    (failed : builder.compileTail context head inside cursor = .error failure) :
    (∃ text, cursor.rest = '\x7b' :: text ∧ LeavesListOpen text ∧
      failure = ⟨.unterminated head.word head.position, cursor.position + 1 + text.length⟩) ∨
    ∃ parameters following bad, cursor.rest = parameterChars parameters ++ following ∧
      (parameters.isSome = true ↔ cursor.rest.head? = some '\x7b') ∧
      builder.instantiate ⟨head, parameterValues parameters, inside⟩ context = .error bad ∧
      failure = ⟨.badParameter bad, cursor.position + (parameterChars parameters).length⟩ := by
  rcases cursor with ⟨start, rest⟩
  cases closed : (readParameters ⟨start, rest⟩).closed with
  | false =>
      left
      have opened : rest.head? = some '\x7b' := by
        apply Decidable.byContradiction
        intro unopened
        rw [readParameters_of_unopened unopened] at closed
        cases closed
      rcases List.head?_eq_some_iff.mp opened with ⟨text, rfl⟩
      rw [readParameters_opened] at closed
      have leavesOpen : LeavesListOpen text := (closed_eq_false_iff _).mp closed
      rw [compileTail_leftOpen builder head inside leavesOpen] at failed
      exact ⟨text, rfl, leavesOpen, (Except.error.inj failed).symm⟩
  | true =>
      right
      rcases exists_list_of_readParameters closed with ⟨parameters, values, text, length, listed⟩
      unfold Builder.compileTail at failed
      simp only [closed, if_true, values, length] at failed
      cases built : builder.instantiate ⟨head, parameterValues parameters, inside⟩ context with
      | ok unit =>
          rw [built] at failed
          cases failed
      | error bad =>
          rw [built] at failed
          exact ⟨parameters, _, bad, text, listed, built, (Except.error.inj failed).symm⟩

/-- Reading what a directive encloses fails inside of it, or because it is not closed. -/
theorem compileInside_error_cases {head : Head} {builder : Builder} {cursor : Cursor}
    {failure : Failure}
    (failed : registry.compileInside context head builder cursor = .error failure) :
    ∃ inner, builder.encloses = true ∧ cursor.rest = '(' :: inner ∧
      (registry.compileUntil context (some ')') ⟨cursor.position + 1, inner⟩ =
          .error failure ∨
        ∃ pieces, Splits registry context (some ')') (cursor.position + 1) pieces [] ∧
          inner = pieceChars pieces ∧
          failure = ⟨.unterminated head.word head.position,
            cursor.position + 1 + inner.length⟩) := by
  by_cases opened : builder.encloses = true ∧ cursor.rest.head? = some '('
  · rcases cursor with ⟨start, rest⟩
    rcases List.head?_eq_some_iff.mp opened.2 with ⟨inner, rfl⟩
    refine ⟨inner, opened.1, rfl, ?_⟩
    rw [compileInside_opened opened.1] at failed
    cases enclosed : registry.compileUntil context (some ')') ⟨start + 1, inner⟩ with
    | error failure' =>
        rw [enclosed] at failed
        cases failed
        exact .inl rfl
    | ok done =>
        right
        rcases done with ⟨compiled, ended, rest⟩
        rw [enclosed] at failed
        cases rest with
        | cons closer others => cases failed
        | nil =>
            rcases exists_cuts _ _ _ _ enclosed with ⟨pieces, splits, text, length, -⟩
            dsimp only at splits text length
            rw [List.append_nil] at text
            refine ⟨pieces, splits, text, ?_⟩
            rw [text, ← length]
            exact (Except.error.inj failed).symm
  · rw [compileInside_unopened opened] at failed
    cases failed

/-- A directive with a known word that is not compiled goes wrong behind its word, or the
pattern that it encloses is not compiled. -/
theorem compileDirective_known_error_cases {head : HeadText} {builder : Builder}
    {following : List Char} {failure : Failure} (inRange : InRange head.lengths)
    (resolved : registry.resolve? head.name = some builder)
    (maximal : ∀ character ∈ following.head?, Text.isAlphabetic character = false)
    (failed : registry.compileDirective context position
        ⟨position + 1, head.chars ++ following⟩ = .error failure) :
    (∃ text behind, head.chars ++ following = text ++ behind ∧
      failure.stopped = position + 1 + text.length ∧
      GoesWrong registry context position text failure.fault behind) ∨
    ∃ inner, builder.encloses = true ∧ following = '(' :: inner ∧
      registry.compileUntil context (some ')') ⟨position + 1 + head.chars.length + 1, inner⟩ =
        .error failure := by
  rw [compileDirective_head head inRange resolved maximal] at failed
  cases insideDone : registry.compileInside context (head.head position) builder
    ⟨position + 1 + head.chars.length, following⟩ with
  | error failure' =>
      rw [insideDone] at failed
      cases failed
      rcases compileInside_error_cases insideDone with
        ⟨inner, encloses, opening, enclosed | ⟨pieces, splits, rfl, rfl⟩⟩
      · exact .inr ⟨inner, encloses, opening, enclosed⟩
      · left
        dsimp only at opening
        subst opening
        refine ⟨_, [], (List.append_nil _).symm, ?_,
          .leftOpen (.inside inRange resolved encloses splits)⟩
        simp only [List.length_append, List.length_cons]
        omega
  | ok done =>
      left
      rcases done with ⟨compiled, behind⟩
      rcases exists_begun_of_compileInside
          (fun inner _ inside ahead => exists_cuts (some ')') inner inside ahead) inRange
          resolved rfl rfl maximal insideDone with
        ⟨inside, rfl, begun, insideText, insideLength⟩
      rw [insideDone] at failed
      rw [insideText]
      rcases compileTail_error_cases failed with
        ⟨text, opening, leavesOpen, rfl⟩ | ⟨parameters, rest, bad, opening, listed, built, rfl⟩
      · rw [opening] at begun ⊢
        refine ⟨_, [], (List.append_nil _).symm, ?_,
          .leftOpen (.inParameters begun leavesOpen)⟩
        simp only [insideLength, List.length_append, List.length_cons]
        omega
      · rw [opening] at begun listed ⊢
        refine ⟨head.chars ++ (insideChars inside ++ parameterChars parameters), rest, ?_, ?_,
          .refused (.parameters begun listed built)⟩
        · simp only [List.append_assoc]
        · simp only [insideLength, List.length_append]
          omega

theorem compileDirective_error_cases {rest : List Char} {failure : Failure}
    (failed : registry.compileDirective context position ⟨position + 1, rest⟩ =
      .error failure) :
    (∃ text following, rest = text ++ following ∧
      failure.stopped = position + 1 + text.length ∧
      GoesWrong registry context position text failure.fault following) ∨
    ∃ (head : HeadText) (builder : Builder) (inner : List Char), InRange head.lengths ∧
      registry.resolve? head.name = some builder ∧ builder.encloses = true ∧
      rest = head.chars ++ '(' :: inner ∧
      registry.compileUntil context (some ')') ⟨position + 1 + head.chars.length + 1, inner⟩ =
        .error failure := by
  rcases readHead_cases position ⟨position + 1, rest⟩ with
    ⟨head, following, text, maximal, read⟩ |
      ⟨least, greatest, following, text, ended, unlettered, read⟩
  · dsimp only at text
    subst text
    cases checked : head.checked with
    | error fault =>
        left
        rcases HeadText.exists_bad_of_checked checked with ⟨bad, rfl⟩
        rw [checked] at read
        rw [compileDirective_of_readHead read] at failed
        cases failed
        exact ⟨head.chars, following, rfl, rfl, .refused (.lengths checked maximal)⟩
    | ok lengths =>
        rcases (checkLengths_written_iff head lengths).mp checked with ⟨rfl, inRange⟩
        cases resolved : registry.resolve? head.name with
        | none =>
            left
            have misnamed : Misnamed registry head.chars head.name following :=
              .unknown inRange resolved maximal
            rw [misnamed.compileDirective] at failed
            cases failed
            exact ⟨head.chars, following, rfl, rfl, .misnamed misnamed⟩
        | some builder =>
            rcases compileDirective_known_error_cases inRange resolved maximal failed with
              wrong | ⟨inner, encloses, rfl, enclosed⟩
            · exact .inl wrong
            · exact .inr ⟨head, builder, inner, inRange, resolved, encloses, rfl, enclosed⟩
  · left
    rw [compileDirective_of_readHead read] at failed
    cases failed
    refine ⟨least.chars ++ greatestChars greatest, following,
      text.trans (List.append_assoc _ _ _).symm, rfl, ?_⟩
    cases following with
    | nil => exact .leftOpen (.beforeWord least greatest)
    | cons character others =>
        exact .misnamed (.wordless (ended character rfl) (unlettered character rfl))

end Directives

/-! ## Patterns that go wrong -/

def error? {Error Value : Type} : Except Error Value → Option Error
  | .error failure => some failure
  | .ok _ => none

theorem eq_error_of_error? {Error Value : Type} {outcome : Except Error Value}
    {failure : Error} (failed : error? outcome = some failure) : outcome = .error failure := by
  cases outcome with
  | error failure' => exact congrArg Except.error (Option.some.inj failed)
  | ok value => cases failed

/-- A text fails in a directive: its percent sign is reached at an offset within some other
directives, which `opened` lists, and behind it the directive goes wrong. -/
structure FailsAt (registry : Registry) (context : Context) (closing : Option Char)
    (cursor : Cursor) (opened : List Nat) (position : Nat) (text following : List Char)
    (failure : Failure) : Prop where
  opens : OpensAt registry context closing cursor opened position (text ++ following)
  wrong : GoesWrong registry context position text failure.fault following
  stopped : failure.stopped = position + 1 + text.length

section Patterns

variable {registry : Registry} {context : Context}

/-- A directive that is reached and goes wrong is not compiled. -/
theorem GoesWrong.compileUntil {position : Nat} {text following : List Char} {fault : Fault}
    (wrong : GoesWrong registry context position text fault following)
    (single : (text ++ following).head? ≠ some '%') (closing : Option Char) :
    registry.compileUntil context closing ⟨position, '%' :: (text ++ following)⟩ =
      .error ⟨fault, position + 1 + text.length⟩ := by
  rw [registry.compileUntil_directive context single, wrong.compileDirective]
  rfl

/-- With parts in front of it a text only fails if it fails without them. -/
theorem error_of_inFrontOf {first : Compiled}
    {outcome : Except Failure (Compiled × Cursor)} {failure : Failure}
    (failed : first.inFrontOf outcome = .error failure) : outcome = .error failure := by
  cases outcome with
  | error failure' => exact failed
  | ok done => cases failed

/-- A text that fails behind literal text fails in a directive, if every shorter one does. -/
theorem exists_failsAt_of_lead {closing : Option Char} {position : Nat} {rest : List Char}
    {failure : Failure} (lead : Registry.Lead closing rest)
    (shorter : ∀ (other : Option Char) (cursor : Cursor), cursor.rest.length < rest.length →
      registry.compileUntil context other cursor = .error failure →
        ∃ opened place text following,
          FailsAt registry context other cursor opened place text following failure)
    (failed : registry.compileUntil context closing ⟨position, rest⟩ = .error failure) :
    ∃ opened place text following,
      FailsAt registry context closing ⟨position, rest⟩ opened place text following failure := by
  cases lead with
  | stop stopped =>
      rw [registry.compileUntil_stop context stopped] at failed
      cases failed
  | @percent following =>
      rw [registry.compileUntil_percent] at failed
      rcases shorter closing ⟨position + 2, following⟩ (Nat.lt_add_of_pos_right Nat.two_pos)
          (error_of_inFrontOf failed) with
        ⟨opened, place, text, rest, ⟨⟨ending, reached⟩, single⟩, wrong, stopped⟩
      exact ⟨opened, place, text, rest, ⟨⟨ending, .percent reached⟩, single⟩, wrong, stopped⟩
  | @directive following distinct =>
      rw [registry.compileUntil_directive context distinct] at failed
      cases first : registry.compileDirective context position ⟨position + 1, following⟩ with
      | error failure' =>
          rw [first] at failed
          cases failed
          rcases compileDirective_error_cases first with
            ⟨text, rest, rfl, stopped, wrong⟩ |
              ⟨head, builder, inner, inRange, resolved, encloses, rfl, enclosed⟩
          · exact ⟨[], position, text, rest, ⟨⟨closing, .here⟩, distinct⟩, wrong, stopped⟩
          · have small : inner.length < ('%' :: (head.chars ++ '(' :: inner)).length := by
              simp only [List.length_cons, List.length_append]
              omega
            rcases shorter (some ')') _ small enclosed with
              ⟨opened, place, text, rest, ⟨⟨ending, reached⟩, single⟩, wrong, stopped⟩
            exact ⟨position :: opened, place, text, rest,
              ⟨⟨ending, .enter inRange resolved encloses reached⟩, single⟩, wrong, stopped⟩
      | ok directive =>
          rcases directive with ⟨unit, behind⟩
          have small := length_lt_of_compileDirective first
          rw [first] at failed
          have later : registry.compileUntil context closing behind = .error failure :=
            error_of_inFrontOf failed
          rcases exists_completes first with
            ⟨head, inside, parameters, builder, completes, chars, length⟩
          rcases shorter closing behind small later with
            ⟨opened, place, text, rest, ⟨⟨ending, reached⟩, single⟩, wrong, stopped⟩
          rcases behind with ⟨start, others⟩
          dsimp only at chars length completes
          subst length
          rw [chars]
          exact ⟨opened, place, text, rest, ⟨⟨ending, .directive completes reached⟩, single⟩, wrong,
            stopped⟩

/-- A text is not compiled exactly if it fails in a directive, and then it fails as the
directive goes wrong. -/
theorem compileUntil_eq_error_iff (closing : Option Char) (cursor : Cursor)
    (failure : Failure) :
    registry.compileUntil context closing cursor = .error failure ↔
      ∃ opened position text following,
        FailsAt registry context closing cursor opened position text following failure := by
  constructor
  · intro failed
    induction closing, cursor using Registry.leadInduction with
    | piece closing position text following plain maximal lead shorter =>
        rw [registry.compileUntil_literal context plain maximal] at failed
        rcases exists_failsAt_of_lead lead shorter (error_of_inFrontOf failed) with
          ⟨opened, place, wrongText, rest, ⟨⟨ending, reached⟩, single⟩, wrong, stopped⟩
        exact ⟨opened, place, wrongText, rest, ⟨⟨ending, .literal plain maximal reached⟩, single⟩,
          wrong, stopped⟩
  · rintro ⟨opened, position, text, following, ⟨⟨ending, reached⟩, single⟩, wrong, stopped⟩
    rw [reached.compileUntil_error (wrong.compileUntil single ending), ← stopped]

end Patterns

end LogLayout.Pattern
