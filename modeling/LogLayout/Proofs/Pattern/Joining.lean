import LogLayout.Proofs.Pattern.Operations
import LogLayout.Proofs.Pattern.Shifting

namespace LogLayout.Pattern

/-!
# Patterns in a row

A pattern that compiles may be put in front of another one without a change to either.
The two are compiled to what each of them comes to, and a fault of the second one is
reported as the same fault, behind the characters of the first.

At the seam a literal text may go on that ended the first pattern.  The two literal texts
are then one part instead of two, so that the parts are not those of both patterns in a
row, but what they show is.  A directive at the end of the first pattern is another
matter: the second pattern must not start with what the directive would take for a part
of its own, which is a letter, a parenthesis or a brace.
-/

/-! ## The built-in words -/

section Words

variable (spec : Spec) (position index : Nat)

@[simp] theorem Spec.word_moveTo : (spec.moveTo position).word = spec.word := rfl

@[simp] theorem Spec.enclosed_moveTo : (spec.moveTo position).enclosed = spec.enclosed := rfl

@[simp] theorem Spec.parameter?_moveTo :
    (spec.moveTo position).parameter? index = spec.parameter? index := rfl

@[simp] theorem Spec.intParameter_moveTo :
    (spec.moveTo position).intParameter index = spec.intParameter index := by
  simp only [intParameter, parameter?_moveTo, word_moveTo]

@[simp] theorem Spec.requiredParameter_moveTo :
    (spec.moveTo position).requiredParameter index = spec.requiredParameter index := by
  simp only [requiredParameter, parameter?_moveTo, word_moveTo]

end Words

/-- Every built-in word is built alike wherever it stands. -/
theorem positionBlind_words :
    ∀ entry ∈ Words.fields ++ Words.dates ++ Words.decorations,
      entry.2.1.PositionBlind := by
  have color (chosen : Color) (emphasis : Option Emphasis) :
      (Words.color chosen emphasis).PositionBlind := fun _ _ _ => rfl
  have emphasis (chosen : Emphasis) : (Words.emphasis chosen).PositionBlind := fun _ _ _ => rfl
  have field (shown : Renderer) : (Words.field shown).PositionBlind := fun _ _ _ => rfl
  have constant (text : Context → String) : (Words.constant text).PositionBlind :=
    fun _ _ _ => rfl
  have coloredLevel : Words.coloredLevel.PositionBlind := fun _ _ _ => rfl
  have highlight : Words.highlight.PositionBlind := fun _ _ _ => rfl
  have logger : Words.logger.PositionBlind := fun spec context position => by
    simp only [Words.logger, Builder.plain, Spec.intParameter_moveTo, Spec.word_moveTo]
  have pairs : Words.pairs.PositionBlind := fun spec context position => by
    simp only [Words.pairs, Builder.plain, Spec.parameter?_moveTo]
  have date (default : String) : (Words.date default).PositionBlind :=
    fun spec context position => by
      simp only [Words.date, Builder.plain, Words.chosenFormat, Words.chosenZone,
        Spec.parameter?_moveTo, Spec.word_moveTo]
  have replace : Words.replace.PositionBlind := fun spec context position => by
    simp only [Words.replace, Builder.transformer, Spec.requiredParameter_moveTo,
      Spec.word_moveTo, Spec.enclosed_moveTo]
  simp only [Words.fields, Words.dates, Words.decorations, Words.level, Words.message,
    Words.thread, Words.marker, Words.caller, List.forall_mem_append, List.forall_mem_cons,
    List.forall_mem_map, List.forall_mem_flatMap, List.not_mem_nil, false_implies, implies_true,
    and_true, color, emphasis, field, constant, coloredLevel, highlight, logger, pairs, date,
    replace]

theorem positionBlind_builtin : Registry.builtin.PositionBlind := by
  have every : Registry.builtin.Every fun _ builder => builder.PositionBlind :=
    Registry.every_builtin positionBlind_words
  exact fun name builder found => every (Registry.builtin.canonical name) builder found

/-! ## Outcomes in a row -/

/-- A text comes to what another one comes to, with the text of some parts in front. -/
def Follows (first : Compiled) (later whole : Except Failure (Compiled × Cursor)) : Prop :=
  match later with
  | .error failure => whole = .error failure
  | .ok (compiled, behind) => ∃ joined, whole = .ok (joined, behind) ∧
      ∀ record, joined.render record = first.render record ++ compiled.render record

theorem Follows.empty (outcome : Except Failure (Compiled × Cursor)) :
    Follows .empty outcome outcome := by
  rcases outcome with failure | ⟨compiled, behind⟩
  · rfl
  · exact ⟨compiled, rfl, fun record => String.empty_append.symm⟩

theorem Follows.inFrontOf (first : Compiled) (outcome : Except Failure (Compiled × Cursor)) :
    Follows first outcome (first.inFrontOf outcome) := by
  rcases outcome with failure | ⟨compiled, behind⟩
  · rfl
  · exact ⟨first ++ compiled, rfl, Compiled.render_append first compiled⟩

theorem Follows.trans {first second : Compiled}
    {later middle whole : Except Failure (Compiled × Cursor)} (front : Follows first middle whole)
    (back : Follows second later middle) : Follows (first ++ second) later whole := by
  rcases later with failure | ⟨compiled, behind⟩
  · cases back
    exact front
  · rcases back with ⟨joined, rfl, shown⟩
    rcases front with ⟨all, same, allShown⟩
    refine ⟨all, same, fun record => ?_⟩
    rw [allShown, shown, Compiled.render_append, String.append_assoc]

section Seams

variable {registry : Registry} {context : Context}

/-- Literal text may go on into the text behind it. -/
theorem follows_literal {closing : Option Char} {text : List Char}
    (plain : ∀ character ∈ text, character ∉ stops closing) (following : List Char)
    (position : Nat) :
    Follows (.ofLiteral text)
      (registry.compileUntil context closing ⟨position + text.length, following⟩)
      (registry.compileUntil context closing ⟨position, text ++ following⟩) := by
  rcases Registry.exists_lead closing following with ⟨more, rest, rfl, morePlain, maximal, -⟩
  have allPlain : ∀ character ∈ text ++ more, character ∉ stops closing :=
    List.forall_mem_append.mpr ⟨plain, morePlain⟩
  rw [registry.compileUntil_literal context morePlain maximal, ← List.append_assoc,
    registry.compileUntil_literal context allPlain maximal, List.length_append, ← Nat.add_assoc]
  rcases registry.compileUntil context closing
    ⟨position + text.length + more.length, rest⟩ with failure | ⟨compiled, behind⟩
  · rfl
  · refine ⟨_, rfl, fun record => ?_⟩
    simp only [Compiled.render_append, Compiled.render_ofLiteral, String.ofList_append,
      String.append_assoc]

/-- A text that no directive in front of it reaches into. -/
def Apart (text : List Char) : Prop :=
  ∀ character ∈ text.head?,
    Text.isAlphabetic character = false ∧ character ≠ '(' ∧ character ≠ '\x7b'

/-- A character that does not start the second text starts both if it starts the first. -/
theorem head?_append_eq_some_iff {second : List Char} {character : Char}
    (other : second.head? ≠ some character) (first : List Char) :
    (first ++ second).head? = some character ↔ first.head? = some character := by
  cases first with
  | nil => exact iff_of_false other (fun impossible => by cases impossible)
  | cons head tail => exact Iff.rfl

/-- A directive is written alike if more text comes behind, as long as it does not reach
into that text. -/
theorem Written.append {position : Nat} {head : HeadText} {inside : Option (List Piece)}
    {parameters : Option ParameterListText} {builder : Builder} {unit : Renderer}
    {behind second : List Char}
    (written : Written registry context position head inside parameters builder unit behind)
    (apart : Apart second) :
    Written registry context position head inside parameters builder unit
      (behind ++ second) := by
  have text : behindHead inside parameters (behind ++ second) =
      behindHead inside parameters behind ++ second := by
    simp only [behindHead, List.append_assoc]
  have noParenthesis : second.head? ≠ some '(' := fun first => (apart '(' first).2.1 rfl
  have noBrace : second.head? ≠ some '\x7b' := fun first => (apart '\x7b' first).2.2 rfl
  refine ⟨written.inRange, written.resolved, ?_, ?_, ?_, written.built⟩
  · intro character first
    rw [text, List.head?_append, Option.mem_def, Option.or_eq_some_iff] at first
    rcases first with inner | ⟨-, outer⟩
    · exact written.maximal character inner
    · exact (apart character outer).1
  · rw [text, head?_append_eq_some_iff noParenthesis]
    exact written.opened
  · rw [← List.append_assoc, head?_append_eq_some_iff noBrace]
    exact written.listed

theorem head?_append_congr {first second : List Char} (same : second.head? = first.head?)
    (text : List Char) : (text ++ second).head? = (text ++ first).head? := by
  rw [List.head?_append, List.head?_append, same]

/-- How a directive is written depends on the first character behind it only. -/
theorem Written.congr {position : Nat} {head : HeadText} {inside : Option (List Piece)}
    {parameters : Option ParameterListText} {builder : Builder} {unit : Renderer}
    {behind other : List Char}
    (written : Written registry context position head inside parameters builder unit behind)
    (same : other.head? = behind.head?) :
    Written registry context position head inside parameters builder unit other := by
  have list := head?_append_congr same (parameterChars parameters)
  have text : (behindHead inside parameters other).head? =
      (behindHead inside parameters behind).head? := head?_append_congr list (insideChars inside)
  refine ⟨written.inRange, written.resolved, ?_, ?_, ?_, written.built⟩
  · rw [text]
    exact written.maximal
  · rw [text]
    exact written.opened
  · rw [list]
    exact written.listed

/-- How a text splits depends on the first character that follows only. -/
theorem Splits.congr {closing : Option Char} {position : Nat} {pieces : List Piece}
    {following other : List Char}
    (splits : Splits registry context closing position pieces following)
    (same : other.head? = following.head?) :
    Splits registry context closing position pieces other := by
  induction splits generalizing other with
  | finished stopped => exact .finished (same ▸ stopped)
  | @literal closing position following text pieces nonempty plain maximal rest
        inductionHypothesis =>
      refine .literal nonempty plain ?_ (inductionHypothesis same)
      rw [head?_append_congr same]
      exact maximal
  | percent rest inductionHypothesis => exact .percent (inductionHypothesis same)
  | directive written enclosed rest insideHypothesis inductionHypothesis =>
      exact .directive (written.congr (head?_append_congr same _))
        (fun inner here => insideHypothesis inner here rfl) (inductionHypothesis same)

/-- Behind a pattern that splits up to its end another text is compiled as it would be
alone, with the text of the pattern in front. -/
theorem follows_of_splits {closing : Option Char} {position : Nat} {pieces : List Piece}
    {following second : List Char}
    (splits : Splits registry context closing position pieces following)
    (ended : following = []) (apart : Apart second) :
    Follows (compiledPieces pieces)
      (registry.compileUntil context closing
        ⟨position + (pieceChars pieces).length, second⟩)
      (registry.compileUntil context closing ⟨position, pieceChars pieces ++ second⟩) := by
  induction splits with
  | finished stopped => exact .empty _
  | @literal closing position following text pieces nonempty plain maximal rest
        inductionHypothesis =>
      have parts : compiledPieces (⟨text, fun _ => String.ofList text⟩ :: pieces) =
          .ofLiteral text ++ compiledPieces pieces := by
        rw [Compiled.ofLiteral_of_ne_nil nonempty]
        rfl
      rw [pieceChars_cons, length_pieceChars_cons, ← Nat.add_assoc, parts]
      exact (follows_literal plain _ position).trans (inductionHypothesis ended)
  | @percent closing position following pieces rest inductionHypothesis =>
      rw [pieceChars_cons, length_pieceChars_cons, ← Nat.add_assoc]
      change Follows (.single (fun _ => "%") ++ compiledPieces pieces) _
        (registry.compileUntil context closing
          ⟨position, '%' :: '%' :: (pieceChars pieces ++ second)⟩)
      rw [registry.compileUntil_percent]
      exact (Follows.inFrontOf _ _).trans (inductionHypothesis ended)
  | @directive closing position following pieces head inside parameters builder unit written
        enclosed rest insideHypothesis inductionHypothesis =>
      subst ended
      rw [List.append_nil] at written
      have enclosedCompiled (inner : List Piece) (same : inside = some inner) :=
        compileUntil_of_splits ((enclosed inner same).congr
          (show (')' :: (parameterChars parameters ++ (pieceChars pieces ++ second))).head? = _
            from rfl))
      rw [pieceChars_cons, length_pieceChars_cons, ← Nat.add_assoc,
        compileUntil_written (written.append apart) enclosedCompiled]
      exact (Follows.inFrontOf _ _).trans (inductionHypothesis rfl)

/-- A pattern that compiles leaves another one behind it what it is: the texts of both are
shown in a row, and a fault of the second one moves along. -/
theorem compile_append_cases (blind : registry.PositionBlind) {first second : String}
    {compiled : Compiled} (done : registry.compile context first = .ok compiled)
    (apart : Apart second.toList) :
    (∃ later whole, registry.compile context second = .ok later ∧
      registry.compile context (first ++ second) = .ok whole ∧
      ∀ record, whole.render record = compiled.render record ++ later.render record) ∨
    ∃ fault, registry.compile context second = .error fault ∧
      registry.compile context (first ++ second) = .error (fault.shift first.length) := by
  rcases (compile_eq_ok_iff first compiled).mp done with ⟨pieces, splits, text, rfl⟩
  have whole := follows_of_splits splits rfl apart
  have moved := compileUntil_shift context first.length blind none ⟨0, second.toList⟩
  rw [Nat.zero_add, ← text, String.length_toList] at whole
  change registry.compileUntil context none ⟨first.length, second.toList⟩ = _ at moved
  rw [moved] at whole
  unfold Registry.compile Cursor.ofText
  rw [String.toList_append]
  generalize registry.compileUntil context none ⟨0, second.toList⟩ = outcome at whole ⊢
  rcases outcome with failure | ⟨later, behind⟩
  · have same : registry.compileUntil context none ⟨0, first.toList ++ second.toList⟩ =
        .error (failure.shift first.length) := whole
    rw [same]
    exact .inr ⟨failure.fault, rfl, rfl⟩
  · rcases whole with ⟨joined, same, shown⟩
    rw [same]
    exact .inl ⟨later, joined, rfl, rfl, shown⟩

end Seams

/-- Compiling patterns in a row is compiling each of them, if no builder looks at the
positions of directives, as is the case for the built-in words.  The second pattern is
accepted behind a pattern that compiles exactly if it is accepted alone, and then both
texts are shown in a row.  If it is rejected, it is rejected for the same reason, with the
position counted from the start of the first pattern. -/
theorem compile_append :
    Registry.builtin.PositionBlind ∧
    ∀ (registry : Registry) (context : Context) (first second : String) (compiled : Compiled),
      registry.PositionBlind → registry.compile context first = .ok compiled →
      (∀ character ∈ second.toList.head?,
        Text.isAlphabetic character = false ∧ character ≠ '(' ∧ character ≠ '\x7b') →
      ((∃ whole, registry.compile context (first ++ second) = .ok whole) ↔
        ∃ later, registry.compile context second = .ok later) ∧
      (∀ later whole, registry.compile context second = .ok later →
        registry.compile context (first ++ second) = .ok whole → ∀ record,
          whole.render record = compiled.render record ++ later.render record) ∧
      (∀ word position, registry.compile context second = .error (.unknownWord word position) →
        registry.compile context (first ++ second) =
          .error (.unknownWord word (first.length + position))) ∧
      (∀ word position, registry.compile context second = .error (.unterminated word position) →
        registry.compile context (first ++ second) =
          .error (.unterminated word (first.length + position))) ∧
      (∀ bad, registry.compile context second = .error (.badParameter bad) →
        registry.compile context (first ++ second) = .error (.badParameter bad)) := by
  refine ⟨positionBlind_builtin, fun registry context first second compiled blind done apart => ?_⟩
  rcases compile_append_cases blind done apart with
    ⟨later, whole, alone, joined, shown⟩ | ⟨fault, alone, joined⟩
  · rw [alone, joined]
    refine ⟨iff_of_true ⟨whole, rfl⟩ ⟨later, rfl⟩, ?_, ?_, ?_, ?_⟩
    · rintro _ _ ⟨⟩ ⟨⟩
      exact shown
    · rintro _ _ ⟨⟩
    · rintro _ _ ⟨⟩
    · rintro _ ⟨⟩
  · rw [alone, joined]
    refine ⟨iff_of_false (fun accepted => ?_) (fun accepted => ?_), ?_, ?_, ?_, ?_⟩
    · cases accepted.choose_spec
    · cases accepted.choose_spec
    · rintro _ _ ⟨⟩
    · rintro word position ⟨⟩
      rfl
    · rintro word position ⟨⟩
      rfl
    · rintro bad ⟨⟩
      rfl

/-- Two literal texts meet at the seam, and the unknown word of the second pattern stands
behind the nine characters of the first. -/
theorem compile_append_unknownWord :
    let context : Context := { application := "shop", node := "east", console := .plain }
    Registry.builtin.PositionBlind ∧
      (Registry.builtin.compile context "%level - ").toBool = true ∧
      Registry.builtin.compile context "- %nosuch" = .error (.unknownWord "nosuch" 2) ∧
      Registry.builtin.compile context ("%level - " ++ "- %nosuch") =
        .error (.unknownWord "nosuch" 11) := by
  intro context
  have accepted : (Registry.builtin.compile context "%level - ").toBool = true := by
    decide +kernel
  have unknown : (match Registry.builtin.compile context "- %nosuch" with
      | .error fault => decide (fault = .unknownWord "nosuch" 2)
      | .ok _ => false) = true := by
    decide +kernel
  have rejected : Registry.builtin.compile context "- %nosuch" =
      .error (.unknownWord "nosuch" 2) := by
    cases done : Registry.builtin.compile context "- %nosuch" with
    | error fault =>
        rw [done] at unknown
        exact congrArg Except.error (of_decide_eq_true unknown)
    | ok compiled =>
        rw [done] at unknown
        cases unknown
  cases done : Registry.builtin.compile context "%level - " with
  | error fault =>
      rw [done] at accepted
      cases accepted
  | ok compiled =>
      have joined := compile_append.2 Registry.builtin context "%level - " "- %nosuch" compiled
        compile_append.1 done (fun character first => by cases first; decide)
      exact ⟨compile_append.1, rfl, rejected, joined.2.2.1 "nosuch" 2 rejected⟩

end LogLayout.Pattern
