import LogLayout.Proofs.Columns
import LogLayout.Proofs.Pattern.Justifying
import LogLayout.Proofs.Pattern.Undecorating

namespace LogLayout.Pattern

/-!
# Lengths in front of words that decorate

Lengths are applied behind the back of every builder, to the finished text of a directive.
Those that decorate are no exception: their sequences are in the text by then, and count.

So a column that is filled with spaces is narrower with colors than without, by as many
characters as its two sequences have, and a cut may hit the sequences.  Only a text that needs
neither padding nor a cut, sequences included, looks alike with colors and without.
-/

def enclosingText (lengths : Lengths) (word pattern : String) : String :=
  "%" ++ String.ofList (lengthsChars lengths) ++ word ++ "(" ++ pattern ++ ")"

section Limited

variable {registry : Registry} {context : Context}

/-- A directive that encloses a pattern compiles with lengths if its builder accepts every
head. -/
theorem compile_limited_enclosing (blind : registry.PositionBlind) {lengths : Lengths}
    (inRange : InRange lengths) {word : String} (nonempty : word ≠ "")
    (letters : ∀ letter ∈ word.toList, Text.isAlphabetic letter = true) {builder : Builder}
    (resolved : registry.resolve? word = some builder) (encloses : builder.encloses = true)
    {pattern : String} {inner : Compiled}
    (done : registry.compile context pattern = .ok inner)
    (staysOpen : StaysOpen registry context pattern) {unit : Renderer}
    (built : ∀ head : Head, builder.build ⟨head, [], some inner⟩ context = .ok unit) :
    registry.compile context (enclosingText lengths word pattern) =
      .ok (.single (justify lengths unit)) := by
  rcases staysOpen with ⟨pieces, splits, text, noneCloses⟩
  have alone := (compile_eq_ok_iff pattern (compiledPieces pieces)).mpr ⟨pieces, splits, text, rfl⟩
  have same : inner = compiledPieces pieces := Except.ok.inj (done.symm.trans alone)
  subst same
  refine compile_limited inRange nonempty letters resolved (some pieces) (fun _ => encloses) ?_
    built ?_
  · rintro _ ⟨⟩ position
    exact (splits.enclose rfl rfl noneCloses []).moveTo blind position
  · simp only [enclosingText, String.toList_append, String.toList_ofList, insideChars, text,
      List.append_assoc]
    rfl

end Limited

/-! ## Patterns of plain words -/

/-- A pattern can be enclosed with colors if it can be enclosed without. -/
theorem StaysOpen.colored {context : Context} {pattern : String}
    (staysOpen : StaysOpen .builtin context.plain pattern) :
    StaysOpen .builtin context.colored pattern := by
  rcases staysOpen.exists_compiled with ⟨inner, done⟩
  have enclosed := compileUntil_enclosed positionBlind_builtin done staysOpen 0 []
  have matched := matched_compileUntil context (some ')') ⟨0, pattern.toList ++ [')']⟩
  rw [enclosed] at matched
  generalize colored : Registry.builtin.compileUntil context.colored (some ')')
    ⟨0, pattern.toList ++ [')']⟩ = outcome at matched
  cases matched with
  | @ok first _ shades =>
      rcases first with ⟨compiled, behind⟩
      have stopped : behind = ⟨0 + pattern.length, [')']⟩ := shades.2
      rw [stopped] at colored
      exact staysOpen_of_compileUntil positionBlind_builtin colored

/-- A pattern of plain words compiles to the same parts with colors and without. -/
theorem compile_colored_eq {context : Context} {pattern : String} {inner : Compiled}
    (undecorated :
      Undecorated .builtin (readPattern Registry.builtin.vocabulary pattern).items)
    (done : Registry.builtin.compile context.plain pattern = .ok inner) :
    Registry.builtin.compile context.colored pattern = .ok inner := by
  have matched := matched_compile context pattern
  rw [done] at matched
  generalize Registry.builtin.compile context.colored pattern = outcome at matched ⊢
  cases matched with
  | ok shades => rw [shades.same undecorated]

/-- What a pattern of plain words shows has no escape character if there is none in it, in the
names of the context and in the record. -/
theorem unescaped_render {context : Context} {pattern : String} {inner : Compiled}
    (undecorated :
      Undecorated .builtin (readPattern Registry.builtin.vocabulary pattern).items)
    (done : Registry.builtin.compile context.plain pattern = .ok inner)
    (unescaped : Unescaped pattern.toList) (names : context.Unescaped) {record : Record}
    (good : record.Unescaped) : Unescaped (inner.render record).toList := by
  have matched := matched_compile context pattern
  rw [done, compile_colored_eq undecorated done] at matched
  cases matched with
  | ok shades =>
      exact (shades.decorates
        ⟨names, unescaped_of_mem_texts _ unescaped, undecorated.uninspected⟩ record good).not_mem

/-! ## Columns -/

/-- What a directive with lengths shows of a text with colors and without, if its word is one
that decorates: both texts are cut and padded, the one with colors after it was decorated.
Only the color of a level may be none. -/
def ShowsColumn (lengths : Lengths) (word : String) (level : Level)
    (text colored plain : String) : Prop :=
  plain = lengths.apply text ∧
    ((word ∈ ["highlight", "coloredLevel"] ∧ (level = .debug ∨ level = .trace) ∧
        colored = plain) ∨
      ∃ emphasis color chosen, Console.parameters emphasis color = some chosen ∧
        Console.DecoratedColumn lengths chosen text colored)

/-- A text that is decorated with colors and left alone without makes a column. -/
theorem showsColumn_decorate {lengths : Lengths} {word text : String} {level : Level}
    {color : Option Color} {emphasis : Option Emphasis} (unescaped : Unescaped text.toList)
    (undecorated : Console.parameters emphasis color = none →
      word ∈ ["highlight", "coloredLevel"] ∧ (level = .debug ∨ level = .trace)) :
    ShowsColumn lengths word level text
      (lengths.apply ((Console.mk true).decorate color emphasis text))
      (lengths.apply (Console.plain.decorate color emphasis text)) := by
  refine ⟨rfl, ?_⟩
  rw [Console.decorate_plain, Console.decorate, if_pos rfl]
  cases selected : Console.parameters emphasis color with
  | none =>
      rcases undecorated selected with ⟨listed, low⟩
      exact .inl ⟨listed, low, rfl⟩
  | some chosen =>
      exact .inr ⟨emphasis, color, chosen, selected,
        Console.decoratedColumn lengths selected unescaped⟩

/-! ## The words that decorate -/

/-- The words that decorate are known under their own names, which are made of letters. -/
theorem resolve?_decorating : ∀ word ∈ Words.decorating,
    (Registry.builtin.resolve? word).isSome = true ∧ Registry.builtin.canonical word = word ∧
      word ≠ "" ∧ word.toList.all Text.isAlphabetic = true := by
  decide +kernel

/-- A word that decorates patterns compiles with lengths around every pattern that can be
enclosed, and the lengths are applied to the decorated text. -/
theorem compile_wrapping {lengths : Lengths} (inRange : InRange lengths) {word : String}
    (listed : word ∈ Words.wrapping) :
    ∃ (color : Record → Option Color) (emphasis : Record → Option Emphasis),
      (∀ (context : Context) (pattern : String) (inner : Compiled),
        Registry.builtin.compile context pattern = .ok inner →
        StaysOpen .builtin context pattern →
        Registry.builtin.compile context (enclosingText lengths word pattern) =
          .ok (.single (justify lengths fun record =>
            context.console.decorate (color record) (emphasis record) (inner.render record)))) ∧
      ∀ record, Console.parameters (emphasis record) (color record) = none →
        word = "highlight" ∧ (record.level = .debug ∨ record.level = .trace) := by
  rcases resolve?_decorating word (List.mem_cons_of_mem _ listed) with
    ⟨known, canonical, nonempty, letters⟩
  rcases Option.isSome_iff_exists.mp known with ⟨builder, resolved⟩
  have wraps := wraps_of_resolve? resolved (canonical.symm ▸ listed)
  rw [canonical] at wraps
  rcases wraps with ⟨encloses, color, emphasis, build, levels⟩
  exact ⟨color, emphasis, fun context pattern inner done staysOpen =>
    compile_limited_enclosing positionBlind_builtin inRange nonempty
      (List.all_eq_true.mp letters) resolved encloses done staysOpen
      fun head => build ⟨head, [], some inner⟩ context, levels⟩

theorem compile_coloredLevel (context : Context) {lengths : Lengths} (inRange : InRange lengths) :
    Registry.builtin.compile context
        ("%" ++ String.ofList (lengthsChars lengths) ++ "coloredLevel") =
      .ok (.single (justify lengths fun record =>
        context.console.decorate (levelColor record.level) (levelEmphasis record.level)
          record.level.name)) := by
  rcases resolve?_decorating "coloredLevel" List.mem_cons_self with
    ⟨known, canonical, nonempty, letters⟩
  rcases Option.isSome_iff_exists.mp known with ⟨builder, resolved⟩
  have same := eq_coloredLevel_of_resolve? resolved canonical
  subst same
  refine compile_limited inRange nonempty (List.all_eq_true.mp letters) resolved none
    (fun none => by cases none) (fun _ none => by cases none)
    (fun head => build_coloredLevel ⟨head, [], none⟩ context) ?_
  simp only [String.toList_append, String.toList_ofList, insideChars, List.append_nil]
  rfl

/-- Lengths in front of a word that decorates are applied to the decorated text.  This is so
for every word that encloses a pattern, whatever plain words the pattern is made of, and for
the name of the level in its color. -/
theorem compile_decorated_lengths (context : Context) (lengths : Lengths)
    (inRange : InRange lengths) :
    (∀ word ∈ Words.wrapping, ∀ pattern : String,
      StaysOpen .builtin context.plain pattern →
      Undecorated .builtin (readPattern Registry.builtin.vocabulary pattern).items →
      ∃ inner colored plain,
        Registry.builtin.compile context.plain pattern = .ok inner ∧
        Registry.builtin.compile context.colored (enclosingText lengths word pattern) =
          .ok colored ∧
        Registry.builtin.compile context.plain (enclosingText lengths word pattern) =
          .ok plain ∧
        (Unescaped pattern.toList → context.Unescaped → ∀ record : Record, record.Unescaped →
          Unescaped (inner.render record).toList) ∧
        ∀ record : Record, Unescaped (inner.render record).toList →
          ShowsColumn lengths word record.level (inner.render record) (colored.render record)
            (plain.render record)) ∧
    ∃ colored plain,
      Registry.builtin.compile context.colored
        ("%" ++ String.ofList (lengthsChars lengths) ++ "coloredLevel") = .ok colored ∧
      Registry.builtin.compile context.plain
        ("%" ++ String.ofList (lengthsChars lengths) ++ "coloredLevel") = .ok plain ∧
      ∀ record : Record, ShowsColumn lengths "coloredLevel" record.level record.level.name
        (colored.render record) (plain.render record) := by
  constructor
  · intro word listed pattern staysOpen undecorated
    rcases compile_wrapping inRange listed with ⟨color, emphasis, directive, levels⟩
    rcases staysOpen.exists_compiled with ⟨inner, done⟩
    refine ⟨inner, _, _, done,
      directive context.colored pattern inner (compile_colored_eq undecorated done)
        staysOpen.colored,
      directive context.plain pattern inner done staysOpen,
      fun unescaped names record good =>
        unescaped_render undecorated done unescaped names good, fun record unescaped => ?_⟩
    rw [Compiled.render_single, Compiled.render_single, justify_apply, justify_apply]
    refine showsColumn_decorate unescaped fun none => ?_
    rcases levels record none with ⟨highlight, low⟩
    exact ⟨highlight ▸ List.mem_cons_self, low⟩
  · refine ⟨_, _, compile_coloredLevel context.colored inRange,
      compile_coloredLevel context.plain inRange, fun record => ?_⟩
    rw [Compiled.render_single, Compiled.render_single, justify_apply, justify_apply]
    refine showsColumn_decorate (by cases record.level <;> decide) fun none => ?_
    exact ⟨List.mem_cons_of_mem _ List.mem_cons_self, undecorated_level none⟩

/-- A column of ten characters that the two sequences fill without a space. -/
theorem compile_decorated_lengths_red :
    let context : Context := { application := "shop", node := "east", console := .plain }
    let lengths : Lengths := ⟨some (-10), none⟩
    let record := Record.sample .epoch "main"
    enclosingText lengths "red" "%level" = "%-10red(%level)" ∧
      ∃ inner colored plain,
        Registry.builtin.compile context.plain "%level" = .ok inner ∧
        Registry.builtin.compile context.colored (enclosingText lengths "red" "%level") =
          .ok colored ∧
        Registry.builtin.compile context.plain (enclosingText lengths "red" "%level") =
          .ok plain ∧
        ShowsColumn lengths "red" record.level (inner.render record) (colored.render record)
          (plain.render record) := by
  intro context lengths record
  have accepted : (Registry.builtin.compile context.plain "%level").toOption.any
      (fun _ => true) = true := by
    decide +kernel
  have inRange : InRange lengths := by
    constructor <;> rintro _ ⟨⟩
    decide
  have undecorated :
      Undecorated .builtin (readPattern Registry.builtin.vocabulary "%level").items := by
    decide +kernel
  have good : record.Unescaped := by constructor <;> decide +kernel
  rcases exists_of_any_toOption accepted with ⟨alone, done, -⟩
  rcases (compile_decorated_lengths context lengths inRange).1 "red" (by decide) "%level"
      (staysOpen_of_not_mem done (by decide)) undecorated with
    ⟨inner, colored, plain, compiled, first, second, clean, columns⟩
  exact ⟨by decide +kernel, inner, colored, plain, compiled, first, second,
    columns record (clean (by decide) ⟨by decide, by decide⟩ record good)⟩

/-- Lengths do not count what a reader sees.  The sequences take up the room of the padding,
and a cut leaves half of one. -/
theorem compile_decorated_lengths_counted :
    let context : Context := { application := "shop", node := "east", console := .plain }
    let record := Record.sample .epoch "main"
    "red" ∈ Words.wrapping ∧ record.Unescaped ∧
      Undecorated .builtin (readPattern Registry.builtin.vocabulary "%level").items ∧
      (∃ colored plain,
        Registry.builtin.compile context.colored "%-10red(%level)" = .ok colored ∧
        Registry.builtin.compile context.plain "%-10red(%level)" = .ok plain ∧
        colored.render record = "\x1b[31mINFO\x1b[m" ∧ plain.render record = "INFO      " ∧
        Console.visible (colored.render record) ≠ plain.render record) ∧
      ∃ cut, Registry.builtin.compile context.colored "%.2red(%level)" = .ok cut ∧
        cut.render record = "\x1b[" := by
  intro context record
  have filled : (Registry.builtin.compile context.colored "%-10red(%level)").toOption.any
      (fun colored => decide (colored.render record = "\x1b[31mINFO\x1b[m")) = true := by
    decide +kernel
  have padded : (Registry.builtin.compile context.plain "%-10red(%level)").toOption.any
      (fun plain => decide (plain.render record = "INFO      ")) = true := by
    decide +kernel
  have halved : (Registry.builtin.compile context.colored "%.2red(%level)").toOption.any
      (fun cut => decide (cut.render record = "\x1b[")) = true := by
    decide +kernel
  have seen : Console.visible "\x1b[31mINFO\x1b[m" = "INFO" := by
    decide +kernel
  rcases exists_of_any_toOption filled with ⟨colored, first, filledShown⟩
  rcases exists_of_any_toOption padded with ⟨plain, second, paddedShown⟩
  rcases exists_of_any_toOption halved with ⟨cut, third, halvedShown⟩
  have filledText := of_decide_eq_true filledShown
  have paddedText := of_decide_eq_true paddedShown
  refine ⟨by decide, by constructor <;> decide +kernel, by decide +kernel,
    ⟨colored, plain, first, second, filledText, paddedText, ?_⟩,
    cut, third, of_decide_eq_true halvedShown⟩
  rw [filledText, paddedText, seen]
  decide

end LogLayout.Pattern
