import LogLayout.Proofs.Pattern.Operations
import LogLayout.Proofs.Table
import LogLayout.Proofs.Unescaped

namespace LogLayout

/-!
# The words that decorate

A built-in word makes its text in one of three ways.  It shows fields of the record, of the
context and of its parameters; or it replaces in what it encloses; or it decorates, and then
the text in between is that of the enclosed pattern or the name of the level.

Only decoration looks at the console, so this is where lines with colors and without them may
differ.  The others bring no escape character into a line that is in none of their texts.
-/

/-- No text of a record that a directive can show has an escape character. -/
structure Record.Unescaped (record : Record) : Prop where
  logger : LogLayout.Unescaped record.logger.toList
  message : LogLayout.Unescaped record.message.toList
  arguments : ∀ argument ∈ record.arguments, LogLayout.Unescaped argument.toList
  thread : LogLayout.Unescaped record.thread.toList
  marker : ∀ marker ∈ record.marker, LogLayout.Unescaped marker.toList
  pairs : ∀ pair ∈ record.pairs.entries,
    LogLayout.Unescaped pair.1.toList ∧ LogLayout.Unescaped pair.2.toList
  caller : ∀ caller ∈ record.caller,
    LogLayout.Unescaped caller.module.toList ∧ LogLayout.Unescaped caller.file.toList ∧
      ∀ function ∈ caller.function, LogLayout.Unescaped function.toList

namespace Pattern

/-- No name of a context has an escape character. -/
structure Context.Unescaped (context : Context) : Prop where
  application : LogLayout.Unescaped context.application.toList
  node : LogLayout.Unescaped context.node.toList

def Context.withConsole (context : Context) (console : Console) : Context :=
  { context with console := console }

/-- The same directive around another pattern. -/
def Spec.around (spec : Spec) (inside : Option Compiled) : Spec := { spec with inside := inside }

@[simp] theorem Spec.word_around (spec : Spec) (inside : Option Compiled) :
    (spec.around inside).word = spec.word := rfl

@[simp] theorem Spec.parameter?_around (spec : Spec) (inside : Option Compiled) (index : Nat) :
    (spec.around inside).parameter? index = spec.parameter? index := rfl

@[simp] theorem Context.zone_withConsole (context : Context) (console : Console) :
    (context.withConsole console).zone = context.zone := rfl

@[simp] theorem Context.machineOffset_withConsole (context : Context) (console : Console) :
    (context.withConsole console).machineOffset = context.machineOffset := rfl

/-- The words that decorate the pattern they enclose. -/
def Words.wrapping : List String :=
  Color.all.map Color.name ++ Color.all.map Color.boldName ++ Emphasis.all.map Emphasis.name ++
    ["highlight"]

/-- The words that put decoration into a line. -/
def Words.decorating : List String := "coloredLevel" :: Words.wrapping

/-! ## Words that show fields -/

/-- A builder looks neither at the console nor at the enclosed pattern, and what it shows has
no escape character unless a parameter, a name of the context or a text of the record has one. -/
structure Builder.ShowsFields (builder : Builder) : Prop where
  build_eq : ∀ spec context inside console,
    builder.build (spec.around inside) (context.withConsole console) = builder.build spec context
  unescaped : ∀ spec context renderer, builder.build spec context = .ok renderer →
    (∀ parameter ∈ spec.parameters, Unescaped parameter.toList) → context.Unescaped →
    ∀ record, record.Unescaped → Unescaped (renderer record).toList

theorem Spec.mem_of_parameter? {spec : Spec} {index : Nat} {parameter : String}
    (given : spec.parameter? index = some parameter) : parameter ∈ spec.parameters :=
  List.mem_of_getElem? given

theorem showsFields_field {shown : Renderer}
    (unescaped : ∀ record, record.Unescaped → Unescaped (shown record).toList) :
    (Words.field shown).ShowsFields where
  build_eq _ _ _ _ := rfl
  unescaped _ _ _ built _ _ := by
    cases built
    exact unescaped

theorem showsFields_constant {text : Context → String}
    (same : ∀ context console, text (context.withConsole console) = text context)
    (unescaped : ∀ context, context.Unescaped → Unescaped (text context).toList) :
    (Words.constant text).ShowsFields where
  build_eq _ context _ console :=
    congrArg (fun shown => Except.ok fun _ => shown) (same context console)
  unescaped _ context _ built _ names _ _ := by
    cases built
    exact unescaped context names

theorem showsFields_caller {part : Caller → String}
    (unescaped : ∀ record : Record, record.Unescaped → ∀ caller ∈ record.caller,
      Unescaped (part caller).toList) :
    (Words.caller part).ShowsFields :=
  showsFields_field fun record clean => by
    cases found : record.caller with
    | none => exact unescaped_nil
    | some caller => exact unescaped record clean caller found

theorem showsFields_logger : Words.logger.ShowsFields where
  build_eq _ _ _ _ := by
    simp only [Words.logger, Builder.plain, Spec.intParameter, Spec.parameter?_around,
      Spec.word_around]
  unescaped spec _ _ built _ _ record unescaped := by
    simp only [Words.logger, Builder.plain] at built
    rcases number : spec.intParameter 0 with bad | _ | length <;> rw [number] at built
    · cases built
    · cases built
      exact unescaped.logger
    · simp only [bind, Except.bind] at built
      split at built
      · cases built
      · cases built
        exact Abbreviation.unescaped_abbreviate unescaped.logger _

theorem showsFields_pairs : Words.pairs.ShowsFields where
  build_eq _ _ _ _ := rfl
  unescaped spec _ _ built parameters _ record unescaped := by
    simp only [Words.pairs, Builder.plain] at built
    cases given : spec.parameter? 0 with
    | none =>
        rw [given] at built
        cases built
        exact unescaped_pairsText unescaped.pairs
    | some parameter =>
        rw [given] at built
        cases built
        dsimp only
        cases found : record.pairs.get? (readKey parameter).1 with
        | none => exact unescaped_readKey (parameters parameter (Spec.mem_of_parameter? given))
        | some value =>
            exact (unescaped.pairs _ ((record.pairs.mem_entries_iff _ _).mpr found)).2

theorem showsFields_date {default : String} (unescaped : Unescaped default.toList) :
    (Words.date default).ShowsFields where
  build_eq spec context inside console := by
    simp only [Words.date, Builder.plain, Words.chosenFormat, Words.chosenZone,
      Spec.parameter?_around, Spec.word_around, Context.zone_withConsole,
      Context.machineOffset_withConsole]
  unescaped spec context renderer built parameters _ record _ := by
    have format : Unescaped (Words.chosenFormat spec default).toList := by
      unfold Words.chosenFormat
      split
      · exact unescaped
      next parameter given =>
        dsimp only
        split
        · exact unescaped
        · exact unescaped_trim (parameters parameter (Spec.mem_of_parameter? given))
    simp only [Words.date, Builder.plain] at built
    cases parsed : Time.DatePattern.parse (Words.chosenFormat spec default) with
    | error flaw =>
        rw [parsed] at built
        cases built
    | ok pattern =>
        rw [parsed] at built
        cases zone : Words.chosenZone spec context with
        | error bad =>
            rw [zone] at built
            cases built
        | ok chosen =>
            rw [zone] at built
            cases built
            exact Time.DatePattern.unescaped_format format parsed _

/-! ## Words that decorate -/

/-- The color of a level, if it has one. -/
def levelColor : Level → Option Color
  | .error => some .red
  | .warn => some .red
  | .info => some .blue
  | .debug => none
  | .trace => none

/-- The emphasis of a level, if it has one. -/
def levelEmphasis : Level → Option Emphasis
  | .error => some .bold
  | _ => none

/-- A text in the color of a level is decorated like any other. -/
theorem highlight_eq_decorate (console : Console) (level : Level) (text : String) :
    console.highlight level text =
      console.decorate (levelColor level) (levelEmphasis level) text := by
  have undecorated : console.decorate none none text = text := by
    unfold Console.decorate
    split <;> rfl
  cases level with
  | error | warn | info => rfl
  | debug | trace => exact undecorated.symm

/-- Only the two lowest levels have neither a color nor an emphasis. -/
theorem undecorated_level {level : Level}
    (undecorated : Console.parameters (levelEmphasis level) (levelColor level) = none) :
    level = .debug ∨ level = .trace := by
  cases level with
  | error | warn | info => cases undecorated
  | debug => exact .inl rfl
  | trace => exact .inr rfl

/-- A builder encloses a pattern and decorates what it shows.  Only the color of a level may
be none, and only at the two lowest levels. -/
structure Builder.Wraps (builder : Builder) (word : String) : Prop where
  encloses : builder.encloses = true
  build_eq : ∃ (color : Record → Option Color) (emphasis : Record → Option Emphasis),
    (∀ spec context, builder.build spec context = .ok fun record =>
      context.console.decorate (color record) (emphasis record) (spec.enclosed.render record)) ∧
    ∀ record, Console.parameters (emphasis record) (color record) = none →
      word = "highlight" ∧ (record.level = .debug ∨ record.level = .trace)

theorem wraps_color (color : Color) (emphasis : Option Emphasis) (word : String) :
    (Words.color color emphasis).Wraps word :=
  ⟨rfl, fun _ => some color, fun _ => emphasis, fun _ _ => rfl, fun _ undecorated => by
    cases emphasis <;> cases undecorated⟩

theorem wraps_emphasis (emphasis : Emphasis) (word : String) :
    (Words.emphasis emphasis).Wraps word :=
  ⟨rfl, fun _ => none, fun _ => some emphasis, fun _ _ => rfl, fun _ undecorated => by
    cases undecorated⟩

theorem wraps_highlight : Words.highlight.Wraps "highlight" :=
  ⟨rfl, fun record => levelColor record.level, fun record => levelEmphasis record.level,
    fun spec context => congrArg Except.ok (funext fun record =>
      highlight_eq_decorate context.console record.level (spec.enclosed.render record)),
    fun _ undecorated => ⟨rfl, undecorated_level undecorated⟩⟩

/-- The name of a level is decorated like any other text. -/
theorem build_coloredLevel (spec : Spec) (context : Context) :
    Words.coloredLevel.build spec context = .ok fun record =>
      context.console.decorate (levelColor record.level) (levelEmphasis record.level)
        record.level.name :=
  congrArg Except.ok (funext fun record =>
    highlight_eq_decorate context.console record.level record.level.name)

/-! ## Words that replace -/

/-- A builder encloses a pattern and changes its text.  The parameters alone decide on the
change, which brings no escape character in that is not in a parameter. -/
structure Builder.Changes (builder : Builder) : Prop where
  build_eq : ∀ spec : Spec, ∃ change : Except BadParameter (String → String),
    (∀ (inside : Option Compiled) context, builder.build (spec.around inside) context =
      change.map fun change record => change ((inside.getD .empty).render record)) ∧
    ∀ changed, change = .ok changed → (∀ parameter ∈ spec.parameters, Unescaped parameter.toList) →
      ∀ text : String, Unescaped text.toList → Unescaped (changed text).toList

theorem Spec.mem_of_requiredParameter {spec : Spec} {index : Nat} {parameter : String}
    (given : spec.requiredParameter index = .ok parameter) : parameter ∈ spec.parameters := by
  unfold requiredParameter at given
  split at given
  next found =>
    cases given
    exact mem_of_parameter? found
  next => cases given

/-- A transformer changes texts in this way if it reads nothing but parameters. -/
theorem changes_transformer {change : Spec → Context → Except BadParameter (String → String)}
    (same : ∀ (spec : Spec) inside context other,
      change (spec.around inside) context = change spec other)
    (unescaped : ∀ (spec : Spec) context changed, change spec context = .ok changed →
      (∀ parameter ∈ spec.parameters, Unescaped parameter.toList) →
      ∀ text : String, Unescaped text.toList → Unescaped (changed text).toList) :
    (Builder.transformer change).Changes where
  build_eq spec := by
    let anywhere : Context := ⟨"", "", .plain, .machine, fun _ => 0⟩
    refine ⟨change spec anywhere, fun inside context => ?_, unescaped spec anywhere⟩
    simp only [Builder.transformer]
    rw [same spec inside context anywhere]
    cases change spec anywhere <;> rfl

theorem changes_replace : Words.replace.Changes := by
  refine changes_transformer (fun spec inside context other => ?_)
    fun spec context changed made parameters text unescaped => ?_
  · simp only [Spec.requiredParameter, Spec.parameter?_around, Spec.word_around]
  · cases expression : spec.requiredParameter 0 with
    | error bad =>
        rw [expression] at made
        cases made
    | ok pattern =>
        cases replacement : spec.requiredParameter 1 with
        | error bad =>
            rw [expression, replacement] at made
            cases made
        | ok written =>
            rw [expression, replacement] at made
            simp only [bind, Except.bind] at made
            split at made
            · cases made
            next matcher parsed =>
              cases made
              exact matcher.unescaped_replaceAll
                (parameters written (Spec.mem_of_requiredParameter replacement)) unescaped

/-! ## The built-in words -/

/-- The ways in which a word makes its text. -/
inductive Makes (word : String) (builder : Builder) : Prop where
  | fields (shows : builder.ShowsFields)
  | decoration (listed : word ∈ Words.wrapping) (wraps : builder.Wraps word)
  | level (named : word = "coloredLevel") (same : builder = Words.coloredLevel)
  | replacement (named : word = "replace") (changes : builder.Changes)

theorem makes_fields : ∀ entry ∈ Words.fields ++ Words.dates, Makes entry.1 entry.2.1 := by
  have level (word : String) : Makes word Words.level :=
    .fields (showsFields_field fun record _ => by cases record.level <;> decide)
  have message (word : String) : Makes word Words.message :=
    .fields (showsFields_field fun record unescaped =>
      Message.unescaped_fill unescaped.message unescaped.arguments)
  have thread (word : String) : Makes word Words.thread :=
    .fields (showsFields_field fun record unescaped => unescaped.thread)
  have marker (word : String) : Makes word Words.marker :=
    .fields (showsFields_field fun record unescaped => by
      cases given : record.marker with
      | none => exact unescaped_nil
      | some marker => exact unescaped.marker marker given)
  have moduleName (word : String) : Makes word (Words.caller Caller.module) :=
    .fields (showsFields_caller fun record unescaped caller found =>
      (unescaped.caller caller found).1)
  have file (word : String) : Makes word (Words.caller Caller.file) :=
    .fields (showsFields_caller fun record unescaped caller found =>
      (unescaped.caller caller found).2.1)
  have line (word : String) : Makes word (Words.caller fun found => toString found.line.toNat) :=
    .fields (showsFields_caller fun _ _ _ _ => unescaped_toString _)
  have function (word : String) : Makes word (Words.caller fun found => found.function.getD "") :=
    .fields (showsFields_caller fun record unescaped caller found => by
      cases given : caller.function with
      | none => exact unescaped_nil
      | some function => exact (unescaped.caller caller found).2.2 function given)
  have application (word : String) : Makes word (Words.constant Context.application) :=
    .fields (showsFields_constant (fun _ _ => rfl) fun _ names => names.application)
  have node (word : String) : Makes word (Words.constant Context.node) :=
    .fields (showsFields_constant (fun _ _ => rfl) fun _ names => names.node)
  have joined (word : String) :
      Makes word (Words.constant fun context => context.application ++ "@" ++ context.node) :=
    .fields (showsFields_constant (fun _ _ => rfl) fun context names => by
      simp only [String.toList_append, unescaped_append_iff]
      exact ⟨⟨names.application, by decide⟩, names.node⟩)
  have newline (word : String) : Makes word (Words.constant fun _ => "\n") :=
    .fields (showsFields_constant (fun _ _ => rfl) fun _ _ => by decide)
  have date (word : String) : Makes word (Words.date Words.dateFormat) :=
    .fields (showsFields_date (by decide))
  have time (word : String) : Makes word (Words.date Words.timeFormat) :=
    .fields (showsFields_date (by decide))
  simp only [Words.fields, Words.dates, List.forall_mem_append, List.forall_mem_cons,
    List.not_mem_nil, false_implies, implies_true, and_true, level, message, thread, marker,
    moduleName, file, line, function, application, node, joined, newline, date, time,
    Makes.fields showsFields_logger, Makes.fields showsFields_pairs, Makes.level rfl rfl]

/-- The words that enclose patterns decorate them or replace in them. -/
theorem decorations_cases : ∀ entry ∈ Words.decorations,
    (entry.1 ∈ Words.wrapping ∧ entry.2.1.Wraps entry.1) ∨
      (entry.1 = "replace" ∧ entry.2.1.Changes) := by
  have color (chosen : Color) :
      chosen.name ∈ Words.wrapping ∧ (Words.color chosen none).Wraps chosen.name :=
    ⟨by cases chosen <;> decide, wraps_color chosen none _⟩
  have boldColor (chosen : Color) :
      chosen.boldName ∈ Words.wrapping ∧
        (Words.color chosen (some .bold)).Wraps chosen.boldName :=
    ⟨by cases chosen <;> decide, wraps_color chosen (some .bold) _⟩
  have emphasis (chosen : Emphasis) :
      chosen.name ∈ Words.wrapping ∧ (Words.emphasis chosen).Wraps chosen.name :=
    ⟨by cases chosen <;> decide, wraps_emphasis chosen _⟩
  have highlight : "highlight" ∈ Words.wrapping ∧ Words.highlight.Wraps "highlight" :=
    ⟨by decide, wraps_highlight⟩
  simp only [Words.decorations, List.forall_mem_append, List.forall_mem_cons,
    List.forall_mem_map, List.forall_mem_flatMap, List.not_mem_nil, false_implies, implies_true,
    color, boldColor, emphasis, highlight, changes_replace, or_true, true_or, and_self]

/-- A name of the built-in registry makes its text in the way of its word. -/
theorem makes_of_resolve? {name : String} {builder : Builder}
    (resolved : Registry.builtin.resolve? name = some builder) :
    Makes (Registry.builtin.canonical name) builder := by
  refine Registry.every_builtin (List.forall_mem_append.mpr ⟨makes_fields, ?_⟩) _ builder resolved
  intro entry listed
  rcases decorations_cases entry listed with ⟨wraps, build⟩ | ⟨named, changes⟩
  · exact .decoration wraps build
  · exact .replacement named changes

theorem wraps_of_resolve? {name : String} {builder : Builder}
    (resolved : Registry.builtin.resolve? name = some builder)
    (listed : Registry.builtin.canonical name ∈ Words.wrapping) :
    builder.Wraps (Registry.builtin.canonical name) := by
  have every : Registry.builtin.Every fun word builder =>
      word ∈ Words.wrapping → builder.Wraps word := by
    refine Registry.every_builtin (List.forall_mem_append.mpr
      ⟨fun entry field wrapping => ?_, fun entry decoration wrapping => ?_⟩)
    · have apart : ∀ entry ∈ Words.fields ++ Words.dates, entry.1 ∉ Words.wrapping := by decide
      exact absurd wrapping (apart entry field)
    · rcases decorations_cases entry decoration with ⟨-, wraps⟩ | ⟨named, -⟩
      · exact wraps
      · rw [named] at wrapping
        exact absurd wrapping (by decide)
  exact every _ builder resolved listed

theorem eq_coloredLevel_of_resolve? {name : String} {builder : Builder}
    (resolved : Registry.builtin.resolve? name = some builder)
    (named : Registry.builtin.canonical name = "coloredLevel") : builder = Words.coloredLevel := by
  have every : Registry.builtin.Every fun word builder =>
      word = "coloredLevel" → builder = Words.coloredLevel := by
    refine Registry.every_builtin (List.forall_mem_append.mpr ⟨?_, fun entry decoration same => ?_⟩)
    · simp [Words.fields, Words.dates]
    · rcases decorations_cases entry decoration with ⟨wrapping, -⟩ | ⟨named, -⟩
      · rw [same] at wrapping
        exact absurd wrapping (by decide)
      · rw [same] at named
        exact absurd named (by decide)
  exact every _ builder resolved named

end Pattern
end LogLayout
