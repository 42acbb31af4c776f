import LogLayout.Proofs.Pattern.Joining

namespace LogLayout.Pattern

/-!
# Patterns inside directives

A word that encloses patterns reads everything up to a closing parenthesis.  Parentheses
that belong to the text of another directive do not count: neither the one behind a pattern
that is enclosed further inside nor one between the quotes of a parameter.  But the first one
that stands in literal text counts, even if an opening one stands before it in literal text,
as it does behind a word that encloses nothing.

So a pattern may be enclosed as a whole exactly if no literal text of it holds a closing
parenthesis, and then it stays what it is alone.  The parts are the very same, because a
builder that does not look at the position of a directive cannot tell the difference.
-/

theorem exists_of_any_toOption {Error Value : Type} {outcome : Except Error Value}
    {check : Value → Bool} (passed : outcome.toOption.any check = true) :
    ∃ value, outcome = .ok value ∧ check value = true := by
  cases outcome with
  | error failure => cases passed
  | ok value => exact ⟨value, rfl, passed⟩

/-! ## Pieces at another place -/

section Places

variable {registry : Registry} {context : Context}

/-- A directive is written alike at any offset. -/
theorem Written.moveTo {position : Nat} {head : HeadText} {inside : Option (List Piece)}
    {parameters : Option ParameterListText} {builder : Builder} {unit : Renderer}
    {behind : List Char}
    (written : Written registry context position head inside parameters builder unit behind)
    (blind : registry.PositionBlind) (other : Nat) :
    Written registry context other head inside parameters builder unit behind :=
  { written with
    built := (builder.instantiate_moveTo context (blind _ builder written.resolved)
      ⟨head.head position, parameterValues parameters, inside.map compiledPieces⟩ other).trans
        written.built }

/-- A text splits into the same pieces at any offset. -/
theorem Splits.moveTo {closing : Option Char} {position : Nat} {pieces : List Piece}
    {following : List Char} (splits : Splits registry context closing position pieces following)
    (blind : registry.PositionBlind) (other : Nat) :
    Splits registry context closing other pieces following := by
  induction splits generalizing other with
  | finished stopped => exact .finished stopped
  | literal nonempty plain maximal rest inductionHypothesis =>
      exact .literal nonempty plain maximal (inductionHypothesis _)
  | percent rest inductionHypothesis => exact .percent (inductionHypothesis _)
  | directive written enclosed rest insideHypothesis inductionHypothesis =>
      exact .directive (written.moveTo blind other)
        (fun inner same => insideHypothesis inner same _) (inductionHypothesis _)

/-- How a directive is written does not depend on a text behind it that it does not reach
into. -/
theorem Written.of_append {position : Nat} {head : HeadText} {inside : Option (List Piece)}
    {parameters : Option ParameterListText} {builder : Builder} {unit : Renderer}
    {behind second : List Char}
    (written : Written registry context position head inside parameters builder unit
      (behind ++ second))
    (apart : Apart second) :
    Written registry context position head inside parameters builder unit behind := by
  have text : behindHead inside parameters (behind ++ second) =
      behindHead inside parameters behind ++ second := by
    simp only [behindHead, List.append_assoc]
  have noParenthesis : second.head? ≠ some '(' := fun first => (apart '(' first).2.1 rfl
  have noBrace : second.head? ≠ some '\x7b' := fun first => (apart '\x7b' first).2.2 rfl
  refine ⟨written.inRange, written.resolved, fun character first => ?_, ?_, ?_, written.built⟩
  · refine written.maximal character ?_
    rw [text, List.head?_append, first]
    rfl
  · rw [← head?_append_eq_some_iff noParenthesis, ← text]
    exact written.opened
  · rw [← head?_append_eq_some_iff noBrace, List.append_assoc]
    exact written.listed

end Places

/-! ## Closing parentheses in literal text -/

/-- No piece of literal text holds a closing parenthesis.  Literal text holds no percent
sign, and all other pieces start with one. -/
def NoneCloses (pieces : List Piece) : Prop :=
  ∀ piece ∈ pieces, piece.text.head? ≠ some '%' → ')' ∉ piece.text

/-- A pattern whose literal text holds no closing parenthesis. -/
def StaysOpen (registry : Registry) (context : Context) (pattern : String) : Prop :=
  ∃ pieces, Splits registry context none 0 pieces [] ∧ pattern.toList = pieceChars pieces ∧
    NoneCloses pieces

theorem noneCloses_nil : NoneCloses [] := fun _ member => absurd member List.not_mem_nil

theorem noneCloses_cons_iff {piece : Piece} {pieces : List Piece} :
    NoneCloses (piece :: pieces) ↔
      (piece.text.head? ≠ some '%' → ')' ∉ piece.text) ∧ NoneCloses pieces :=
  List.forall_mem_cons

theorem apart_closing (behind : List Char) : Apart (')' :: behind) := by
  intro character first
  cases first
  decide

/-- A character that ends literal text of a whole pattern ends that of an enclosed one. -/
theorem mem_stops_closing {character : Char} :
    character ∈ stops (some ')') ↔ character ∈ stops none ∨ character = ')' := by
  simp only [stops, Option.toList_some, Option.toList_none, List.mem_cons, List.not_mem_nil,
    or_false]

section Closing

variable {registry : Registry} {context : Context}

/-- Literal text of a whole pattern does not start with a percent sign. -/
theorem head?_ne_percent_of_plain {closing : Option Char} {text : List Char}
    (plain : ∀ character ∈ text, character ∉ stops closing) : text.head? ≠ some '%' :=
  fun first => plain '%' (List.mem_of_mem_head? first) List.mem_cons_self

/-- A pattern splits into the same pieces in front of a closing parenthesis as in front of
the end of the text, unless its literal text holds such a parenthesis. -/
theorem Splits.enclose {closing : Option Char} {position : Nat} {pieces : List Piece}
    {following : List Char} (splits : Splits registry context closing position pieces following)
    (whole : closing = none) (ended : following = []) (noneCloses : NoneCloses pieces)
    (behind : List Char) :
    Splits registry context (some ')') position pieces (')' :: behind) := by
  induction splits with
  | finished stopped =>
      refine .finished fun character first => ?_
      cases first
      exact ⟨rfl, by decide⟩
  | @literal closing position following text pieces nonempty plain maximal rest
        inductionHypothesis =>
      subst whole ended
      rcases noneCloses_cons_iff.mp noneCloses with ⟨here, later⟩
      have open_ := here (head?_ne_percent_of_plain plain)
      refine .literal nonempty (fun character member => ?_) (fun character first => ?_)
        (inductionHypothesis rfl rfl later)
      · rw [mem_stops_closing, not_or]
        exact ⟨plain character member, fun same => open_ (same ▸ member)⟩
      · rw [mem_stops_closing]
        rw [List.append_nil] at maximal
        rw [List.head?_append, Option.mem_def, Option.or_eq_some_iff] at first
        rcases first with inner | ⟨-, outer⟩
        · exact .inl (maximal character inner)
        · exact .inr (Option.some.inj outer).symm
  | percent rest inductionHypothesis =>
      exact .percent (inductionHypothesis whole ended (noneCloses_cons_iff.mp noneCloses).2)
  | directive written enclosed rest insideHypothesis inductionHypothesis =>
      subst ended
      rw [List.append_nil] at written
      exact .directive (written.append (apart_closing behind))
        (fun inner same => (enclosed inner same).congr rfl)
        (inductionHypothesis whole rfl (noneCloses_cons_iff.mp noneCloses).2)

/-- No directive of an enclosed pattern reaches into what follows it. -/
theorem Splits.apart {position : Nat} {pieces : List Piece} {following : List Char}
    (splits : Splits registry context (some ')') position pieces following) :
    Apart following := by
  intro character first
  have closes : ')' = character := Option.some.inj (splits.stopped character first).1
  subst closes
  decide

/-- The pieces of an enclosed pattern are those of the pattern alone, and no literal text of
them holds a closing parenthesis. -/
theorem Splits.disclose {closing : Option Char} {position : Nat} {pieces : List Piece}
    {following : List Char} (splits : Splits registry context closing position pieces following)
    (enclosed : closing = some ')') :
    Splits registry context none position pieces [] ∧ NoneCloses pieces := by
  induction splits with
  | finished stopped =>
      exact ⟨.finished fun _ first => absurd first (Option.not_mem_none _), noneCloses_nil⟩
  | @literal closing position following text pieces nonempty plain maximal rest
        inductionHypothesis =>
      subst enclosed
      rcases inductionHypothesis rfl with ⟨alone, noneCloses⟩
      have outside (character : Char) (member : character ∈ text) :=
        not_or.mp (mt mem_stops_closing.mpr (plain character member))
      refine ⟨.literal nonempty (fun character member => (outside character member).1)
        (fun character first => ?_) alone, noneCloses_cons_iff.mpr
          ⟨fun _ member => (outside ')' member).2 rfl, noneCloses⟩⟩
      rw [List.append_nil] at first
      have stopped : character ∈ stops (some ')') := maximal character (by
        rw [List.head?_append, first]
        rfl)
      refine (mem_stops_closing.mp stopped).resolve_right fun closes => ?_
      subst closes
      cases pieces with
      | nil => cases first
      | cons piece others =>
          have nonempty := rest.text_ne_nil piece List.mem_cons_self
          cases here : piece.text with
          | nil => exact nonempty here
          | cons start text =>
              rw [pieceChars, List.flatMap_cons, here] at first
              have same : start = ')' := Option.some.inj first
              subst same
              refine (noneCloses_cons_iff.mp noneCloses).1 (fun percent => ?_)
                (here ▸ List.mem_cons_self)
              rw [here] at percent
              exact absurd (Option.some.inj percent) (by decide)
  | percent rest inductionHypothesis =>
      rcases inductionHypothesis enclosed with ⟨alone, noneCloses⟩
      exact ⟨.percent alone, noneCloses_cons_iff.mpr ⟨fun other => absurd rfl other, noneCloses⟩⟩
  | @directive closing position following pieces head inside parameters builder unit written
        enclosedInside rest insideHypothesis inductionHypothesis =>
      subst enclosed
      rcases inductionHypothesis rfl with ⟨alone, noneCloses⟩
      have shorter : Written registry context position head inside parameters builder unit
          (pieceChars pieces ++ []) := by
        rw [List.append_nil]
        exact written.of_append rest.apart
      exact ⟨.directive shorter (fun inner same => (enclosedInside inner same).congr rfl) alone,
        noneCloses_cons_iff.mpr ⟨fun other => absurd rfl other, noneCloses⟩⟩

/-! ## Enclosed patterns -/

/-- Behind an opening parenthesis a pattern is compiled to its own parts, up to the closing
parenthesis that comes first. -/
theorem compileUntil_enclosed (blind : registry.PositionBlind) {pattern : String}
    {compiled : Compiled} (done : registry.compile context pattern = .ok compiled)
    (staysOpen : StaysOpen registry context pattern) (position : Nat) (behind : List Char) :
    registry.compileUntil context (some ')') ⟨position, pattern.toList ++ ')' :: behind⟩ =
      .ok (compiled, ⟨position + pattern.length, ')' :: behind⟩) := by
  rcases staysOpen with ⟨pieces, splits, text, noneCloses⟩
  have alone := (compile_eq_ok_iff pattern (compiledPieces pieces)).mpr ⟨pieces, splits, text, rfl⟩
  have same : compiled = compiledPieces pieces := Except.ok.inj (done.symm.trans alone)
  have enclosed := compileUntil_of_splits
    ((splits.enclose rfl rfl noneCloses behind).moveTo blind position)
  rwa [← text, ← same, String.length_toList] at enclosed

/-- A pattern that is enclosed up to its end holds no closing parenthesis in literal text. -/
theorem staysOpen_of_compileUntil (blind : registry.PositionBlind) {pattern : String}
    {position : Nat} {behind : List Char} {inside : Compiled}
    (done : registry.compileUntil context (some ')')
        ⟨position, pattern.toList ++ ')' :: behind⟩ =
      .ok (inside, ⟨position + pattern.length, ')' :: behind⟩)) :
    StaysOpen registry context pattern := by
  rcases exists_cuts _ _ _ _ done with ⟨pieces, splits, text, -, -⟩
  rcases splits.disclose rfl with ⟨alone, noneCloses⟩
  exact ⟨pieces, alone.moveTo blind 0, List.append_cancel_right text, noneCloses⟩

/-- A pattern that compiles and holds no closing parenthesis at all can be enclosed. -/
theorem staysOpen_of_not_mem {pattern : String} {compiled : Compiled}
    (done : registry.compile context pattern = .ok compiled) (absent : ')' ∉ pattern.toList) :
    StaysOpen registry context pattern := by
  rcases (compile_eq_ok_iff pattern compiled).mp done with ⟨pieces, splits, text, -⟩
  refine ⟨pieces, splits, text, fun piece member _ inside => absent ?_⟩
  rw [text]
  exact List.mem_flatMap.mpr ⟨piece, member, inside⟩

theorem StaysOpen.exists_compiled {pattern : String}
    (staysOpen : StaysOpen registry context pattern) :
    ∃ compiled, registry.compile context pattern = .ok compiled := by
  rcases staysOpen with ⟨pieces, splits, text, -⟩
  exact ⟨_, (compile_eq_ok_iff pattern _).mpr ⟨pieces, splits, text, rfl⟩⟩

def HeadText.bare (word : String) (nonempty : word ≠ "")
    (letters : ∀ letter ∈ word.toList, Text.isAlphabetic letter = true) : HeadText where
  least := .absent
  greatest := none
  word := word.toList
  nonempty := fun empty => nonempty (String.toList_eq_nil_iff.mp empty)
  letters := letters

theorem HeadText.inRange_bare (word : String) (nonempty : word ≠ "")
    (letters : ∀ letter ∈ word.toList, Text.isAlphabetic letter = true) :
    InRange (HeadText.bare word nonempty letters).lengths := by
  constructor
  · exact fun _ given => absurd given (Option.not_mem_none _)
  · exact fun _ given => absurd given (Option.not_mem_none _)

/-- A directive with a bare word that encloses a pattern is built from the parts of the
pattern. -/
theorem compile_enclosing (blind : registry.PositionBlind) {word pattern : String}
    {builder : Builder} {compiled : Compiled} (nonempty : word ≠ "")
    (letters : ∀ letter ∈ word.toList, Text.isAlphabetic letter = true)
    (resolved : registry.resolve? word = some builder) (encloses : builder.encloses = true)
    (done : registry.compile context pattern = .ok compiled)
    (staysOpen : StaysOpen registry context pattern) :
    registry.compile context ("%" ++ word ++ "(" ++ pattern ++ ")") =
      ((builder.instantiate ⟨⟨0, .unlimited, word⟩, [], some compiled⟩ context).mapError
        .badParameter).map .single := by
  let head := HeadText.bare word nonempty letters
  have bare : head.head 0 = ⟨0, .unlimited, word⟩ :=
    congrArg (Head.mk 0 .unlimited) String.ofList_toList
  have known : registry.resolve? head.name = some builder := by
    rw [show head.name = word from String.ofList_toList, resolved]
  have inRange : InRange head.lengths := HeadText.inRange_bare word nonempty letters
  have text : ("%" ++ word ++ "(" ++ pattern ++ ")").toList =
      '%' :: (head.chars ++ '(' :: (pattern.toList ++ [')'])) := by
    simp only [String.toList_append, List.append_assoc]
    rfl
  have tail (position : Nat) :
      builder.compileTail context ⟨0, .unlimited, word⟩ (some compiled) ⟨position, []⟩ =
        ((builder.instantiate ⟨⟨0, .unlimited, word⟩, [], some compiled⟩ context).mapError
          fun bad => ⟨.badParameter bad, position⟩).map fun unit => (unit, ⟨position, []⟩) :=
    compileTail_append builder _ (some compiled) none (fun _ => by decide) position
  have stop (position : Nat) :
      registry.compileUntil context none ⟨position, []⟩ = .ok (.empty, ⟨position, []⟩) :=
    registry.compileUntil_stop context (fun _ first => absurd first (Option.not_mem_none _))
      position
  rw [compile_eq_verdict, text, registry.compileUntil_directive context (head.head?_ne_percent _),
    compileDirective_head head inRange known (fun character first => by cases first; decide),
    compileInside_opened encloses, compileUntil_enclosed blind done staysOpen]
  simp only [Except.bind, closeInside, Cursor.forward_one, bare, tail]
  cases builder.instantiate ⟨⟨0, .unlimited, word⟩, [], some compiled⟩ context with
  | error bad => rfl
  | ok unit =>
      simp only [mapError_ok, Except.map, stop]
      rfl

/-- If no builder looks at the positions of directives, a pattern that compiles is enclosed
by a word up to its end exactly if its literal text holds no closing parenthesis.  Then
the directive is built from the very parts that the pattern has alone, and nothing but the
directive is left.  In any case a part of the pattern in front of a closing parenthesis is
all that is enclosed, if it compiles alone and its literal text holds no such parenthesis. -/
theorem compile_enclosing_iff (registry : Registry) (context : Context) (word pattern : String)
    (builder : Builder) (compiled : Compiled) (blind : registry.PositionBlind)
    (nonempty : word ≠ "")
    (letters : ∀ letter ∈ word.toList, Text.isAlphabetic letter = true)
    (resolved : registry.resolve? word = some builder) (encloses : builder.encloses = true)
    (done : registry.compile context pattern = .ok compiled) :
    ((∃ inside, registry.compileUntil context (some ')')
          ⟨word.length + 2, pattern.toList ++ [')']⟩ =
        .ok (inside, ⟨word.length + 2 + pattern.length, [')']⟩)) ↔
      StaysOpen registry context pattern) ∧
    (StaysOpen registry context pattern →
      registry.compileUntil context (some ')')
          ⟨word.length + 2, pattern.toList ++ [')']⟩ =
        .ok (compiled, ⟨word.length + 2 + pattern.length, [')']⟩) ∧
      registry.compile context ("%" ++ word ++ "(" ++ pattern ++ ")") =
        ((builder.instantiate ⟨⟨0, .unlimited, word⟩, [], some compiled⟩ context).mapError
          .badParameter).map .single) ∧
    ∀ front behind part, pattern = front ++ ")" ++ behind →
      registry.compile context front = .ok part → StaysOpen registry context front →
      registry.compileUntil context (some ')')
          ⟨word.length + 2, pattern.toList ++ [')']⟩ =
        .ok (part, ⟨word.length + 2 + front.length, ')' :: (behind.toList ++ [')'])⟩) := by
  refine ⟨⟨?_, ?_⟩, ?_, ?_⟩
  · rintro ⟨inside, ended⟩
    exact staysOpen_of_compileUntil blind ended
  · intro staysOpen
    exact ⟨compiled, compileUntil_enclosed blind done staysOpen _ _⟩
  · intro staysOpen
    exact ⟨compileUntil_enclosed blind done staysOpen _ _,
      compile_enclosing blind nonempty letters resolved encloses done staysOpen⟩
  · rintro front behind part rfl frontDone frontStaysOpen
    have text : (front ++ ")" ++ behind).toList ++ [')'] =
        front.toList ++ ')' :: (behind.toList ++ [')']) := by
      simp only [String.toList_append, List.append_assoc]
      rfl
    rw [text]
    exact compileUntil_enclosed blind frontDone frontStaysOpen _ _

/-- A pattern is enclosed as a whole that holds closing parentheses behind a pattern of its
own and in a parameter, and an opening one in literal text. -/
theorem compile_enclosing_iff_quoted :
    let context : Context := { application := "shop", node := "east", console := .plain }
    let pattern := "%bold(%level)%mdc\x7b')'\x7d("
    ∃ builder compiled, Registry.builtin.resolve? "red" = some builder ∧
      Registry.builtin.compile context pattern = .ok compiled ∧
      Registry.builtin.compile context ("%" ++ "red" ++ "(" ++ pattern ++ ")") =
        ((builder.instantiate ⟨⟨0, .unlimited, "red"⟩, [], some compiled⟩ context).mapError
          .badParameter).map .single := by
  intro context pattern
  have known : (Registry.builtin.resolve? "red").any Builder.encloses = true := by
    decide +kernel
  have ended : (Registry.builtin.compileUntil context (some ')')
      ⟨5, pattern.toList ++ [')']⟩).toOption.any
        (fun done => decide (done.2 = ⟨5 + pattern.length, [')']⟩)) = true := by
    decide +kernel
  rcases exists_of_any_toOption ended with ⟨⟨inside, behind⟩, enclosed, stopped⟩
  have here : behind = ⟨5 + pattern.length, [')']⟩ := of_decide_eq_true stopped
  have staysOpen : StaysOpen Registry.builtin context pattern :=
    staysOpen_of_compileUntil positionBlind_builtin (here ▸ enclosed)
  rcases staysOpen.exists_compiled with ⟨compiled, done⟩
  rcases Option.any_eq_true _ _ |>.mp known with ⟨builder, resolved, encloses⟩
  have whole := compile_enclosing_iff Registry.builtin context "red" pattern builder compiled
    positionBlind_builtin (by decide) (List.all_eq_true.mp (by decide)) resolved encloses done
  exact ⟨builder, compiled, resolved, done, (whole.2.1 staysOpen).2⟩

/-- Behind a word that encloses nothing a pair of parentheses is literal text, and the second
of them closes the pattern that stands around it. -/
theorem compile_enclosing_parentheses :
    let context : Context := { application := "shop", node := "east", console := ⟨true⟩ }
    let record : Record := { Record.sample .epoch "main" with
      caller := some ⟨"shop", "main.rs", 42, none⟩ }
    Registry.builtin.PositionBlind ∧
      (Registry.builtin.resolve? "red").any Builder.encloses = true ∧
      (∃ compiled, Registry.builtin.compile context "%file(%line)" = .ok compiled ∧
        compiled.units.length = 4 ∧ compiled.render record = "main.rs(42)") ∧
      ∃ whole, Registry.builtin.compile context "%red(%file(%line))" = .ok whole ∧
        whole.units.length = 2 ∧
        whole.render record = "\x1b[31mmain.rs(42\x1b[m)" := by
  intro context record
  have known : (Registry.builtin.resolve? "red").any Builder.encloses = true := by
    decide +kernel
  have shown : (Registry.builtin.compile context "%file(%line)").toOption.any (fun compiled =>
      decide (compiled.units.length = 4 ∧ compiled.render record = "main.rs(42)")) = true := by
    decide +kernel
  have outside : (Registry.builtin.compile context "%red(%file(%line))").toOption.any
      (fun whole => decide (whole.units.length = 2 ∧
        whole.render record = "\x1b[31mmain.rs(42\x1b[m)")) = true := by
    decide +kernel
  rcases exists_of_any_toOption shown with ⟨compiled, done, same⟩
  rcases exists_of_any_toOption outside with ⟨whole, wholeDone, wholeSame⟩
  exact ⟨positionBlind_builtin, known, ⟨compiled, done, of_decide_eq_true same⟩,
    whole, wholeDone, of_decide_eq_true wholeSame⟩

end Closing

end LogLayout.Pattern
