import LogLayout.Proofs.Pattern.Enclosing
import LogLayout.Proofs.Pattern.Heads
import LogLayout.Proofs.Pattern.Printing

namespace LogLayout.Pattern

/-!
# Lengths in front of any word

The cutting and the padding are done to the finished text of a directive, whatever its word
is.  So lengths may be put in front of a word without a change to anything that the directive
is built from, and its text is then cut and padded.

This rests on builders that do not look at lengths.  It also rests on what the digits do to
the text behind them: they move an enclosed pattern further back, and a builder that looks at
positions would notice inside of it.  A directive that encloses nothing stays at its own
position, so that nothing has to be asked of its builder there.
-/

/-! ## Builders that do not look at lengths -/

/-- The same directive with other lengths. -/
def Spec.withLengths (spec : Spec) (lengths : Lengths) : Spec :=
  { spec with head := { spec.head with lengths := lengths } }

/-- A builder does not look at the lengths of a directive. -/
def Builder.LengthBlind (builder : Builder) : Prop :=
  ∀ spec context lengths,
    builder.build (spec.withLengths lengths) context = builder.build spec context

/-- No builder of a registry looks at the lengths of a directive. -/
def Registry.LengthBlind (registry : Registry) : Prop :=
  ∀ name builder, registry.resolve? name = some builder → builder.LengthBlind

theorem Builder.HeadBlind.lengthBlind {builder : Builder} (blind : builder.HeadBlind) :
    builder.LengthBlind := fun spec context _ => blind.build_congr spec context rfl

theorem Registry.HeadBlind.lengthBlind {registry : Registry} (blind : registry.HeadBlind) :
    registry.LengthBlind := fun name builder found => (blind name builder found).lengthBlind

section Lengthening

variable {registry : Registry} {context : Context}

/-! ## Another head for the same word -/

/-- A complete directive stays complete with other lengths. -/
theorem Completes.withHead {position : Nat} {head other : HeadText}
    {inside : Option (List Piece)} {parameters : Option ParameterListText} {builder : Builder}
    {unit : Renderer} {behind : List Char}
    (completes : Completes registry context position head inside parameters builder unit behind)
    (unlimited : head.lengths = .unlimited) (same : other.name = head.name)
    (inRange : InRange other.lengths) (blind : builder.LengthBlind)
    (unmoved : inside.isSome = true → registry.PositionBlind) :
    Completes registry context position other inside parameters builder
      (justify other.lengths unit) behind := by
  rcases completes with ⟨⟨-, resolved, maximal, opened, listed, built⟩, enclosed⟩
  refine ⟨⟨inRange, same ▸ resolved, maximal, opened, listed, ?_⟩, fun inner here => ?_⟩
  · have other_eq : other.head position = ⟨position, other.lengths, head.name⟩ := by
      rw [HeadText.head, same]
    have head_eq : head.head position = ⟨position, .unlimited, head.name⟩ := by
      rw [HeadText.head, unlimited]
    have alike := blind
      ⟨⟨position, .unlimited, head.name⟩, parameterValues parameters, inside.map compiledPieces⟩
      context other.lengths
    rw [head_eq, Builder.instantiate_eq_map] at built
    rw [other_eq, Builder.instantiate_eq_map]
    rw [Spec.withLengths] at alike
    rw [alike]
    cases made : builder.build ⟨⟨position, .unlimited, head.name⟩, parameterValues parameters,
        inside.map compiledPieces⟩ context with
    | error bad =>
        rw [made] at built
        cases built
    | ok part =>
        rw [made] at built
        cases built
        rfl
  · exact (enclosed inner here).moveTo (unmoved (by rw [here]; rfl)) _

theorem HeadText.bare_of_letter (text : HeadText) {following : List Char}
    (letter : ∃ letter ∈ (text.chars ++ following).head?, Text.isAlphabetic letter = true) :
    text.chars = text.word ∧ text.lengths = .unlimited := by
  rcases letter with ⟨letter, first, alphabetic⟩
  have ends := endsNumber_of_isAlphabetic alphabetic
  rcases text with ⟨⟨signed, digits, decimal⟩, greatest, word, nonempty, letters⟩
  cases signed with
  | true =>
      cases first
      exact absurd ends (by decide)
  | false =>
      cases digits with
      | cons digit rest =>
          have same : digit = letter := Option.some.inj first
          have decimalDigit := decimal digit List.mem_cons_self
          simp only [endsNumber, ← same, decimalDigit, Bool.not_true, Bool.false_and,
            Bool.false_eq_true] at ends
      | nil =>
          cases greatest with
          | some number =>
              cases first
              exact absurd alphabetic (by decide)
          | none => exact ⟨rfl, rfl⟩

/-! ## Patterns that are one directive -/

/-- A pattern of one part that starts with a percent sign and a letter is one directive
without lengths. -/
theorem exists_completes_of_single {text : String} {compiled : Compiled}
    (letter : ∃ letter ∈ text.toList.head?, Text.isAlphabetic letter = true)
    (done : registry.compile context ("%" ++ text) = .ok compiled)
    (single : compiled.units.length = 1) :
    ∃ head inside parameters builder unit,
      Completes registry context 0 head inside parameters builder unit [] ∧
      text.toList = head.chars ++ (insideChars inside ++ parameterChars parameters) ∧
      compiled = .single unit := by
  rcases (compile_eq_ok_iff _ compiled).mp done with ⟨pieces, splits, chars, rfl⟩
  rcases letter with ⟨letter, first, alphabetic⟩
  rw [String.toList_append] at chars
  change '%' :: text.toList = pieceChars pieces at chars
  cases splits with
  | finished stopped => cases chars
  | @literal _ _ _ front others nonempty plain maximal rest =>
      rw [← List.append_nil (pieceChars _), pieceChars_cons] at chars
      cases front with
      | nil => exact absurd rfl nonempty
      | cons character behind =>
          cases (List.cons.inj chars).1
          exact absurd List.mem_cons_self (plain '%' List.mem_cons_self)
  | @percent _ _ _ others rest =>
      rw [← List.append_nil (pieceChars _), pieceChars_cons] at chars
      rw [(List.cons.inj chars).2] at first
      cases first
      exact absurd alphabetic (by decide)
  | @directive _ _ _ others head inside parameters builder unit written enclosed rest =>
      have empty : others = [] := by
        simpa only [compiledPieces, List.map_cons, List.length_cons, List.length_map,
          Nat.add_eq_right, List.length_eq_zero_iff] using single
      subst empty
      refine ⟨head, inside, parameters, builder, unit, ⟨written, enclosed⟩, ?_, rfl⟩
      rw [pieceChars, List.flatMap_cons, List.flatMap_nil, List.append_nil] at chars
      exact (List.cons.inj chars).2

/-- A complete directive is a pattern of one part. -/
theorem Completes.compile {head : HeadText} {inside : Option (List Piece)}
    {parameters : Option ParameterListText} {builder : Builder} {unit : Renderer}
    (completes : Completes registry context 0 head inside parameters builder unit [])
    {pattern : String} (chars : pattern.toList = directiveChars head inside parameters) :
    registry.compile context pattern = .ok (.single unit) := by
  refine (compile_eq_ok_iff pattern (.single unit)).mpr
    ⟨[⟨directiveChars head inside parameters, unit⟩], ?_, ?_, rfl⟩
  · exact .directive completes.written completes.enclosed
      (.finished fun _ first => absurd first (Option.not_mem_none _))
  · rw [chars, pieceChars, List.flatMap_cons, List.flatMap_nil, List.append_nil]

/-- A directive without parameters compiles with lengths if its builder accepts every head. -/
theorem compile_limited {lengths : Lengths} (inRange : InRange lengths) {word : String}
    (nonempty : word ≠ "") (letters : ∀ letter ∈ word.toList, Text.isAlphabetic letter = true)
    {builder : Builder} (resolved : registry.resolve? word = some builder)
    (inside : Option (List Piece)) (encloses : inside.isSome = true → builder.encloses = true)
    (enclosed : ∀ inner, inside = some inner → ∀ position,
      Splits registry context (some ')') position inner [')'])
    {unit : Renderer} (built : ∀ head : Head,
      builder.build ⟨head, [], inside.map compiledPieces⟩ context = .ok unit)
    {pattern : String}
    (chars : pattern.toList = '%' :: (lengthsChars lengths ++ word.toList ++ insideChars inside)) :
    registry.compile context pattern = .ok (.single (justify lengths unit)) := by
  rcases exists_headText_of_printed lengths nonempty letters with ⟨head, headChars, rfl, rfl⟩
  have completes : Completes registry context 0 head inside none builder
      (justify head.lengths unit) [] := by
    refine ⟨⟨inRange, resolved, ?_, ?_, by decide, ?_⟩, fun inner same => enclosed inner same _⟩
    · intro character first
      cases inside with
      | none => cases first
      | some inner =>
          cases first
          decide
    · cases inside with
      | none => exact iff_of_false Bool.false_ne_true fun both => by cases both.2
      | some inner => exact iff_of_true rfl ⟨encloses rfl, rfl⟩
    · rw [Builder.instantiate_eq_map, parameterValues, built]
      rfl
  refine completes.compile ?_
  rw [chars, directiveChars, headChars, parameterChars, List.append_nil]

/-- A word alone compiles to what its builder makes of it if the builder accepts every head. -/
theorem compile_word {word : String} (nonempty : word ≠ "")
    (letters : ∀ letter ∈ word.toList, Text.isAlphabetic letter = true)
    {builder : Builder} (resolved : registry.resolve? word = some builder) {unit : Renderer}
    (built : ∀ head : Head, builder.build ⟨head, [], none⟩ context = .ok unit) :
    registry.compile context ("%" ++ word) = .ok (.single unit) := by
  have unlimited : InRange .unlimited :=
    ⟨fun _ given => absurd given (Option.not_mem_none _),
      fun _ given => absurd given (Option.not_mem_none _)⟩
  refine compile_limited unlimited nonempty letters resolved none (fun none => by cases none)
    (fun _ none => by cases none) built ?_
  rw [String.toList_append]
  exact congrArg _ (List.append_nil _).symm

/-- Behind the word of a complete directive stands what it encloses. -/
theorem Completes.dropWhile_eq {position : Nat} {head : HeadText} {inside : Option (List Piece)}
    {parameters : Option ParameterListText} {builder : Builder} {unit : Renderer}
    (completes : Completes registry context position head inside parameters builder unit []) :
    (head.word ++ (insideChars inside ++ parameterChars parameters)).dropWhile
        Text.isAlphabetic = insideChars inside ++ parameterChars parameters := by
  have maximal := completes.written.maximal
  rw [behindHead, List.append_nil] at maximal
  exact Text.dropWhile_append head.letters maximal

end Lengthening

/-- Lengths may be put in front of the word of a directive, and then its text is cut and
padded.  The directive is read with the same parameters and the same enclosed pattern, part
by part.  Its builder must not look at lengths, and if it encloses a pattern, no builder must
look at positions; neither is done by the built-in words. -/
theorem compile_lengths :
    (Registry.builtin.LengthBlind ∧ Registry.builtin.PositionBlind) ∧
    ∀ (registry : Registry) (context : Context) (text : String) (lengths : Lengths)
      (compiled : Compiled),
      registry.LengthBlind →
      ((text.toList.dropWhile Text.isAlphabetic).head? = some '(' → registry.PositionBlind) →
      (∃ letter ∈ text.toList.head?, Text.isAlphabetic letter = true) →
      registry.compile context ("%" ++ text) = .ok compiled → compiled.units.length = 1 →
      InRange lengths →
      ∃ justified,
        registry.compile context ("%" ++ String.ofList (lengthsChars lengths) ++ text) =
          .ok justified ∧
        justified.units.length = 1 ∧
        (∀ record, justified.render record = lengths.apply (compiled.render record)) ∧
        ∃ plain limited inside parameters builder unit part,
          Completes registry context 0 plain inside parameters builder unit [] ∧
          ("%" ++ text).toList = directiveChars plain inside parameters ∧
          compiled = .single unit ∧
          Completes registry context 0 limited inside parameters builder part [] ∧
          ("%" ++ String.ofList (lengthsChars lengths) ++ text).toList =
            directiveChars limited inside parameters ∧
          justified = .single part := by
  refine ⟨⟨headBlind_builtin.lengthBlind, positionBlind_builtin⟩, ?_⟩
  intro registry context text lengths compiled lengthBlind positionBlind letter done single inRange
  rcases exists_completes_of_single letter done single with
    ⟨plain, inside, parameters, builder, unit, completes, chars, rfl⟩
  rw [chars] at letter
  rcases plain.bare_of_letter letter with ⟨bare, unlimited⟩
  rw [bare] at chars
  have unmoved : inside.isSome = true → registry.PositionBlind := by
    intro encloses
    refine positionBlind ?_
    rw [chars, completes.dropWhile_eq]
    rcases Option.isSome_iff_exists.mp encloses with ⟨inner, rfl⟩
    rfl
  have nonempty : plain.name ≠ "" := fun empty =>
    plain.nonempty (String.ofList_eq_empty_iff.mp empty)
  rcases exists_headText_of_printed lengths nonempty
      (fun letter member => plain.letters letter (by
        rwa [HeadText.name, String.toList_ofList] at member)) with
    ⟨limited, limitedChars, rfl, sameName⟩
  have limitedCompletes := completes.withHead unlimited sameName inRange
    (lengthBlind _ builder completes.written.resolved) unmoved
  have limitedText :
      ("%" ++ String.ofList (lengthsChars limited.lengths) ++ text).toList =
        directiveChars limited inside parameters := by
    rw [HeadText.name, String.toList_ofList] at limitedChars
    simp only [String.toList_append, String.toList_ofList, chars, directiveChars, limitedChars,
      List.append_assoc]
    rfl
  refine ⟨.single (justify limited.lengths unit), limitedCompletes.compile limitedText, rfl, ?_,
    plain, limited, inside, parameters, builder, unit, _, completes, ?_, rfl, limitedCompletes,
    limitedText, rfl⟩
  · intro record
    rw [Compiled.render_single, justify_apply, Compiled.render_single]
  · rw [String.toList_append, chars, directiveChars, bare]
    rfl

/-- A directive that encloses another one with lengths of its own. -/
theorem compile_lengths_nested :
    let context : Context := { application := "shop", node := "east", console := .plain }
    let lengths : Lengths := ⟨some (-8), some 4⟩
    "%" ++ String.ofList (lengthsChars lengths) ++ "bold(%6level)" = "%-8.4bold(%6level)" ∧
      ∃ compiled justified,
        Registry.builtin.compile context "%bold(%6level)" = .ok compiled ∧
        Registry.builtin.compile context
          ("%" ++ String.ofList (lengthsChars lengths) ++ "bold(%6level)") = .ok justified ∧
        ∀ record, justified.render record = lengths.apply (compiled.render record) := by
  intro context lengths
  have single : (Registry.builtin.compile context "%bold(%6level)").toOption.any
      (fun compiled => decide (compiled.units.length = 1)) = true := by
    decide +kernel
  have inRange : InRange lengths := by
    constructor <;> rintro _ ⟨⟩ <;> decide
  rcases exists_of_any_toOption single with ⟨compiled, done, one⟩
  rcases compile_lengths.2 Registry.builtin context "bold(%6level)" lengths compiled
      compile_lengths.1.1 (fun _ => compile_lengths.1.2) ⟨'b', rfl, by decide⟩ done
      (of_decide_eq_true one) inRange with ⟨justified, accepted, -, shown, -⟩
  exact ⟨by decide +kernel, compiled, justified, done, accepted, shown⟩

/-- A word that shows its own position does not look at lengths, but those of a directive
around it move it. -/
theorem compile_lengths_moved :
    let context : Context := { application := "shop", node := "east", console := .plain }
    let registry := Registry.builtin.register "place"
      (.plain fun spec _ => .ok fun _ => toString spec.head.position)
    let record := Record.sample .epoch "main"
    let lengths : Lengths := ⟨some 3, none⟩
    registry.LengthBlind ∧ ∃ compiled justified,
      registry.compile context "%red(%place)" = .ok compiled ∧ compiled.units.length = 1 ∧
      registry.compile context "%3red(%place)" = .ok justified ∧
      lengths.apply (compiled.render record) = "  5" ∧ justified.render record = "  6" ∧
      justified.render record ≠ lengths.apply (compiled.render record) := by
  intro context registry record lengths
  have every : registry.Every fun _ builder => builder.LengthBlind :=
    Registry.Every.register (Registry.every_builtin fun entry listed =>
      (headBlind_words entry listed).lengthBlind) fun _ _ _ => rfl
  have plain : (registry.compile context "%red(%place)").toOption.any (fun compiled =>
      decide (compiled.units.length = 1 ∧
        lengths.apply (compiled.render record) = "  5")) = true := by
    decide +kernel
  have moved : (registry.compile context "%3red(%place)").toOption.any (fun justified =>
      decide (justified.render record = "  6")) = true := by
    decide +kernel
  rcases exists_of_any_toOption plain with ⟨compiled, done, shown⟩
  rcases exists_of_any_toOption moved with ⟨justified, accepted, further⟩
  rcases of_decide_eq_true shown with ⟨single, five⟩
  have six : justified.render record = "  6" := of_decide_eq_true further
  refine ⟨fun name builder found => every (registry.canonical name) builder found,
    compiled, justified, done, single, accepted, five, six, ?_⟩
  rw [five, six]
  decide

end LogLayout.Pattern
