import LogLayout.Proofs.Pattern.Heads
import LogLayout.Proofs.Pattern.Lookahead
import LogLayout.Proofs.Pattern.WordsUsed

namespace LogLayout.Pattern

/-!
# Patterns that are cut off

While a pattern is being typed, what has been typed so far is the start of a pattern that
compiles.  A cut may fall anywhere: within lengths, within a word, so that another word is left,
within a parameter or at any depth of enclosed patterns.  Then the start may compile, the end of
the text may be missed, or a word may be unknown that is not yet complete.

A parameter is refused only once it is complete, and it would be refused in the whole pattern as
well.  What is left are directives without parameters, and of the built-in words only `replace`
objects to those.
-/

/-! ## Directives without parameters -/

/-- A builder does not object to a directive without parameters. -/
def Builder.BuildsBare (builder : Builder) : Prop :=
  ∀ spec context, spec.parameters = [] → ∃ unit, builder.build spec context = .ok unit

section Bare

theorem Spec.parameter?_eq_none {spec : Spec} (bare : spec.parameters = []) (index : Nat) :
    spec.parameter? index = none := by
  rw [parameter?, bare, List.getElem?_nil]

theorem buildsBare_logger : Words.logger.BuildsBare := by
  intro spec context bare
  refine ⟨fun record => record.logger, ?_⟩
  simp only [Words.logger, Builder.plain, Spec.intParameter, Spec.parameter?_eq_none bare]
  rfl

theorem buildsBare_pairs : Words.pairs.BuildsBare := by
  intro spec context bare
  simp only [Words.pairs, Builder.plain, Spec.parameter?_eq_none bare]
  exact ⟨_, rfl⟩

/-- A date without a format is shown in the default one, which has to be a format itself. -/
theorem buildsBare_date {default : String}
    (format : (Time.DatePattern.parse default).toOption.isSome = true) :
    (Words.date default).BuildsBare := by
  intro spec context bare
  have chosen : Words.chosenFormat spec default = default := by
    rw [Words.chosenFormat, Spec.parameter?_eq_none bare]
  have zone : Words.chosenZone spec context = .ok context.zone := by
    rw [Words.chosenZone, Spec.parameter?_eq_none bare]
  simp only [Words.date, Builder.plain, chosen, zone]
  generalize Time.DatePattern.parse default = parsed at format
  cases parsed with
  | error flaw => cases format
  | ok pattern => exact ⟨_, rfl⟩

/-- Every built-in word but `replace` may stand without parameters. -/
theorem buildsBare_words : ∀ entry ∈ Words.fields ++ Words.dates ++ Words.decorations,
    entry.1 ≠ "replace" → entry.2.1.BuildsBare := by
  have field (shown : Renderer) : (Words.field shown).BuildsBare := fun _ _ _ => ⟨_, rfl⟩
  have constant (text : Context → String) : (Words.constant text).BuildsBare :=
    fun _ _ _ => ⟨_, rfl⟩
  have coloredLevel : Words.coloredLevel.BuildsBare := fun _ _ _ => ⟨_, rfl⟩
  have highlight : Words.highlight.BuildsBare := fun _ _ _ => ⟨_, rfl⟩
  have color (chosen : Color) (emphasis : Option Emphasis) :
      (Words.color chosen emphasis).BuildsBare := fun _ _ _ => ⟨_, rfl⟩
  have emphasis (chosen : Emphasis) : (Words.emphasis chosen).BuildsBare :=
    fun _ _ _ => ⟨_, rfl⟩
  have date : (Words.date Words.dateFormat).BuildsBare := buildsBare_date (by decide +kernel)
  have time : (Words.date Words.timeFormat).BuildsBare := buildsBare_date (by decide +kernel)
  simp only [Words.fields, Words.dates, Words.decorations, Words.level, Words.message,
    Words.thread, Words.marker, Words.caller, List.forall_mem_append, List.forall_mem_cons,
    List.forall_mem_map, List.forall_mem_flatMap, List.not_mem_nil, false_implies, implies_true,
    and_true, ne_eq, not_true_eq_false, color, emphasis, field, constant, coloredLevel, highlight,
    buildsBare_logger, buildsBare_pairs, date, time]

/-- If a directive of a built-in word is refused without parameters, then the word is
`replace`. -/
theorem canonical_eq_replace {head : Head} {builder : Builder} {inside : Option Compiled}
    {context : Context} {bad : BadParameter}
    (resolved : Registry.builtin.resolve? head.word = some builder)
    (refused : builder.instantiate ⟨head, [], inside⟩ context = .error bad) :
    Registry.builtin.canonical head.word = "replace" := by
  have every : Registry.builtin.Every fun word builder =>
      word ≠ "replace" → builder.BuildsBare := Registry.every_builtin buildsBare_words
  apply Decidable.byContradiction
  intro other
  rcases every _ builder resolved other ⟨head, [], inside⟩ context rfl with ⟨unit, built⟩
  rw [builder.instantiate_eq_map, built] at refused
  cases refused

end Bare

/-! ## Words that go on -/

theorem HeadText.exists_longer (head : HeadText) (more : List Char) :
    ∃ (longer : HeadText) (following : List Char),
      head.chars ++ more = longer.chars ++ following ∧ longer.lengths = head.lengths ∧
      head.word <+: longer.word ∧
      ∀ character ∈ following.head?, Text.isAlphabetic character = false := by
  have letters : ∀ letter ∈ head.word ++ more.takeWhile Text.isAlphabetic,
      Text.isAlphabetic letter = true :=
    List.forall_mem_append.mpr ⟨head.letters, List.all_eq_true.mp List.all_takeWhile⟩
  have nonempty : head.word ++ more.takeWhile Text.isAlphabetic ≠ [] := fun empty =>
    head.nonempty (List.append_eq_nil_iff.mp empty).1
  refine ⟨⟨head.least, head.greatest, _, nonempty, letters⟩, more.dropWhile Text.isAlphabetic,
    ?_, rfl, List.prefix_append _ _, Cursor.head?_behindRun ⟨0, more⟩ Text.isAlphabetic⟩
  simp only [HeadText.chars, List.append_assoc, List.takeWhile_append_dropWhile]

theorem eq_replace_of_isPrefix {name : String} (known : Registry.builtin.contains name = true)
    (longer : "replace".toList <+: name.toList) : name = "replace" := by
  have only : ∀ other ∈ Registry.builtin.words ++ Registry.builtin.aliasNames,
      "replace".toList <+: other.toList → other = "replace" := by
    decide +kernel
  exact only name ((Registry.wellFormed_builtin.contains_iff_mem name).mp known) longer

theorem eq_replace_of_canonical {name : String}
    (named : Registry.builtin.canonical name = "replace") : name = "replace" := by
  have aliases : Registry.builtin.aliasesOf "replace" = [] := by decide +kernel
  rcases eq_or_mem_aliasesOf named with same | listed
  · exact same
  · rw [aliases] at listed
    cases listed

/-! ## Directives that go on -/

section Directives

variable {context : Context} {position : Nat} {text more : List Char} {bad : BadParameter}
  {unit : Renderer} {behind : Cursor}

theorem known_of_compileDirective {registry : Registry} {head : HeadText}
    {following : List Char}
    (maximal : ∀ character ∈ following.head?, Text.isAlphabetic character = false)
    (done : registry.compileDirective context position
      ⟨position + 1, head.chars ++ following⟩ = .ok (unit, behind)) :
    InRange head.lengths ∧ registry.contains head.name = true := by
  cases checked : head.checked with
  | error fault =>
      have read := head.readHead_word maximal position (position + 1)
      rw [checked] at read
      rw [compileDirective_of_readHead read] at done
      cases done
  | ok accepted =>
      have inRange := ((checkLengths_written_iff head accepted).mp checked).2
      refine ⟨inRange, Option.isSome_iff_ne_none.mpr fun unknown => ?_⟩
      have misnamed : Misnamed registry head.chars head.name following :=
        .unknown inRange unknown maximal
      rw [misnamed.compileDirective] at done
      cases done

/-- A directive that is refused where a text ends, and that is compiled where the text goes on,
replaces. -/
theorem Refused.replaces (refused : Refused .builtin context position text bad [])
    (done : Registry.builtin.compileDirective context position ⟨position + 1, text ++ more⟩ =
      .ok (unit, behind)) :
    ∃ head, (readHead position ⟨position + 1, text ++ more⟩).1 = .ok head ∧
      Registry.builtin.canonical head.word = "replace" := by
  cases refused with
  | @lengths head bad following outOfRange maximal =>
      rcases head.exists_longer more with ⟨longer, following, divided, lengths, -, ended⟩
      rw [divided] at done
      have inRange := (known_of_compileDirective ended done).1
      rw [lengths] at inRange
      have checked := (checkLengths_written_iff head head.lengths).mpr ⟨rfl, inRange⟩
      cases outOfRange.symm.trans checked
  | @parameters head inside parameters builder bad following begun listed built =>
      cases parameters with
      | some list =>
          have same : (parameterChars (some list) ++ more).head? =
              (parameterChars (some list) ++ []).head? := rfl
          have still : Refused .builtin context position
              (head.chars ++ (insideChars inside ++ parameterChars (some list))) bad more :=
            .parameters (begun.congr same) (iff_of_true rfl rfl) built
          rw [still.compileDirective] at done
          cases done
      | none =>
          have named : Registry.builtin.canonical head.name = "replace" :=
            canonical_eq_replace begun.resolved built
          cases inside with
          | some inner =>
              have maximal : ∀ character ∈ (insideChars (some inner) ++ more).head?,
                  Text.isAlphabetic character = false := fun character first => by
                cases first
                decide
              have read := head.readHead_append begun.inRange maximal position (position + 1)
              refine ⟨head.head position, ?_, named⟩
              simp only [parameterChars, List.append_nil, List.append_assoc]
              rw [read]
          | none =>
              have whole : head.chars ++ (insideChars none ++ parameterChars none) ++ more =
                  head.chars ++ more := by
                simp only [insideChars, parameterChars, List.append_nil]
              rw [whole] at done ⊢
              rcases head.exists_longer more with ⟨longer, following, divided, -, going, maximal⟩
              rw [divided] at done ⊢
              rcases known_of_compileDirective maximal done with ⟨inRange, known⟩
              have replaces : longer.name = "replace" := by
                refine eq_replace_of_isPrefix known ?_
                rw [← eq_replace_of_canonical named, HeadText.name, HeadText.name,
                  String.toList_ofList, String.toList_ofList]
                exact going
              refine ⟨longer.head position, ?_, ?_⟩
              · rw [longer.readHead_append inRange maximal]
              · rw [show (longer.head position).word = longer.name from rfl, replaces]
                decide +kernel

end Directives

/-! ## Patterns that go on -/

/-- Where a pattern that compiles is cut off, a directive that goes wrong in what is left is one
that is compiled in the whole pattern. -/
theorem FailsAt.exists_compiled {registry : Registry} {context : Context} {start more : String}
    {opened : List Nat} {position : Nat} {text following : List Char} {failure : Failure}
    {compiled : Compiled}
    (fails : FailsAt registry context none (.ofText start) opened position text following failure)
    (nonempty : text ≠ [])
    (compiles : registry.compile context (start ++ more) = .ok compiled) :
    OpensAt registry context none (.ofText (start ++ more)) opened position
        (text ++ (following ++ more.toList)) ∧
      ∃ unit behind, registry.compileDirective context position
        ⟨position + 1, text ++ (following ++ more.toList)⟩ = .ok (unit, behind) := by
  rcases fails.opens with ⟨⟨ending, reached⟩, single⟩
  have same : ('%' :: (text ++ (following ++ more.toList))).head? =
      ('%' :: (text ++ following)).head? := rfl
  rcases reached.congr same with ⟨front, divided, moved, -⟩
  have whole : (Cursor.ofText (start ++ more)) =
      ⟨0, front ++ '%' :: (text ++ (following ++ more.toList))⟩ := by
    dsimp only [Cursor.ofText] at divided ⊢
    rw [String.toList_append, divided]
    simp only [List.append_assoc, List.cons_append]
  have distinct : (text ++ (following ++ more.toList)).head? ≠ some '%' := by
    rcases List.exists_cons_of_ne_nil nonempty with ⟨first, rest, rfl⟩
    exact single
  have opens : OpensAt registry context none (.ofText (start ++ more)) opened position
      (text ++ (following ++ more.toList)) := by
    rw [whole]
    exact ⟨⟨ending, moved⟩, distinct⟩
  refine ⟨opens, ?_⟩
  rcases exists_of_compile compiles with ⟨last, done⟩
  rcases opens.reached with ⟨ending', reached'⟩
  rcases reached'.exists_compiled done with ⟨later, here⟩
  rw [registry.compileUntil_directive context distinct] at here
  rcases exists_of_bind here with ⟨⟨unit, behind⟩, directive, -⟩
  exact ⟨unit, behind, directive⟩

theorem Refused.text_ne_nil {registry : Registry} {context : Context} {position : Nat}
    {text following : List Char} {bad : BadParameter}
    (refused : Refused registry context position text bad following) : text ≠ [] := by
  have written (head : HeadText) : head.chars ≠ [] := fun empty =>
    head.nonempty (List.append_eq_nil_iff.mp (List.append_eq_nil_iff.mp empty).2).2
  cases refused with
  | lengths outOfRange maximal => exact written _
  | parameters begun listed built =>
      exact fun empty => written _ (List.append_eq_nil_iff.mp empty).1

theorem FailsAt.not_refused {context : Context} {start more : String} {opened : List Nat}
    {position : Nat} {text following : List Char} {failure : Failure} {compiled : Compiled}
    (fails : FailsAt .builtin context none (.ofText start) opened position text following failure)
    (compiles : Registry.builtin.compile context (start ++ more) = .ok compiled)
    (unreplaced : "replace" ∉ usedWords .builtin
      (readPattern Registry.builtin.vocabulary (start ++ more)).items) (bad : BadParameter) :
    ¬Refused .builtin context position text bad following := by
  intro refused
  rcases fails.exists_compiled refused.text_ne_nil compiles with ⟨opens, unit, behind, done⟩
  by_cases ended : following = []
  · subst ended
    rcases refused.replaces done with ⟨head, read, named⟩
    have used : head.word ∈ wordsOf
        (readPattern Registry.builtin.vocabulary (start ++ more)).items :=
      opens.mem_wordsAt done read
    exact unreplaced (named ▸ List.mem_map_of_mem used)
  · have still : Refused .builtin context position text bad (following ++ more.toList) := by
      refine refused.congr ?_
      rcases List.exists_cons_of_ne_nil ended with ⟨first, rest, rfl⟩
      rfl
    rw [still.compileDirective] at done
    cases done

/-- Every start of a pattern of built-in words that compiles and in which no directive at any
depth replaces either compiles, or it fails for a word that is not known or because it ends too
early.  A parameter is never refused, and the fault is reported at a percent sign of the
start. -/
theorem compile_start (context : Context) (pattern : String) (compiled : Compiled)
    (compiles : Registry.builtin.compile context pattern = .ok compiled)
    (unreplaced : "replace" ∉ usedWords .builtin
      (readPattern Registry.builtin.vocabulary pattern).items)
    (start more : String) (divided : pattern = start ++ more) :
    (∃ shorter, Registry.builtin.compile context start = .ok shorter) ∨
    ∃ word position,
      (Registry.builtin.compile context start = .error (.unknownWord word position) ∨
        Registry.builtin.compile context start = .error (.unterminated word position)) ∧
      position < start.length ∧ start.toList[position]? = some '%' := by
  subst divided
  cases outcome : Registry.builtin.compile context start with
  | ok shorter => exact .inl ⟨shorter, rfl⟩
  | error fault =>
      right
      rcases exists_of_compile_error outcome with ⟨stopped, whole⟩
      rcases (compileUntil_eq_error_iff none _ _).mp whole with
        ⟨opened, position, text, following, fails⟩
      rcases fails.opens.divides with ⟨within, sign, -⟩
      have wrong : GoesWrong .builtin context position text fault following := fails.wrong
      cases wrong with
      | @leftOpen word leftOpen => exact ⟨word, position, .inr rfl, within, sign⟩
      | @misnamed _ word misnamed => exact ⟨word, position, .inl rfl, within, sign⟩
      | @refused _ bad refused =>
          exact absurd refused (fails.not_refused compiles unreplaced bad)

/-- A pattern with an enclosed pattern and parameters, cut within a word, so that an unknown one
is left, and within a parameter. -/
theorem compile_start_typed :
    let context : Context := { application := "shop", node := "east", console := .plain }
    let pattern := "%red(%-5level) %logger\x7b36\x7d"
    (∃ compiled, Registry.builtin.compile context pattern = .ok compiled) ∧
      "replace" ∉ usedWords .builtin
        (readPattern Registry.builtin.vocabulary pattern).items ∧
      pattern = "%red(%-5lev" ++ "el) %logger\x7b36\x7d" ∧
      Registry.builtin.compile context "%red(%-5lev" = .error (.unknownWord "lev" 5) ∧
      pattern = "%red(%-5level) %logger\x7b3" ++ "6\x7d" ∧
      Registry.builtin.compile context "%red(%-5level) %logger\x7b3" =
        .error (.unterminated "logger" 15) ∧
      ∀ start more, pattern = start ++ more →
        (∃ shorter, Registry.builtin.compile context start = .ok shorter) ∨
        ∃ word position,
          (Registry.builtin.compile context start = .error (.unknownWord word position) ∨
            Registry.builtin.compile context start = .error (.unterminated word position)) ∧
          position < start.length ∧ start.toList[position]? = some '%' := by
  intro context pattern
  have accepted : (Registry.builtin.compile context pattern).toOption.any (fun _ => true) =
      true := by
    decide +kernel
  have unreplaced : "replace" ∉ usedWords .builtin
      (readPattern Registry.builtin.vocabulary pattern).items := by
    decide +kernel
  have unknown : error? (Registry.builtin.compile context "%red(%-5lev") =
      some (.unknownWord "lev" 5) := by
    decide +kernel
  have unterminated : error? (Registry.builtin.compile context
      "%red(%-5level) %logger\x7b3") = some (.unterminated "logger" 15) := by
    decide +kernel
  rcases exists_of_any_toOption accepted with ⟨compiled, done, -⟩
  exact ⟨⟨compiled, done⟩, unreplaced, by decide, eq_error_of_error? unknown, by decide,
    eq_error_of_error? unterminated, compile_start context pattern compiled done unreplaced⟩

/-- Without the condition a start may be refused: here `replace` has lost its parameters. -/
example :
    let context : Context := { application := "shop", node := "east", console := .plain }
    error? (Registry.builtin.compile context "%replace(%message)\x7ba, b\x7d") = none ∧
      error? (Registry.builtin.compile context "%replace(%message)") =
        some (.badParameter ⟨"replace", "", .missingParameters 1⟩) := by
  decide +kernel

end LogLayout.Pattern
