import LogLayout.Proofs.Pattern.WordsUsed

namespace LogLayout.Pattern

/-!
# The fields that a line shows

A word reads certain fields of a record, and a directive reads those of its word and those that
the directives inside of it read.  So records that hold the same in all fields that the words of
a pattern read give the same line, whatever else they hold.  In particular no value of the
diagnostic context comes into a line unless the pattern asks for it.
-/

/-! ## Fields and the words that read them -/

/-- What words read of a record.  The arguments of a message belong to it. -/
inductive Field where
  | logger
  | level
  | timestamp
  | message
  | thread
  | marker
  | pairs
  | caller
  | error
  deriving DecidableEq, Repr

/-- The words that read a field.  No word shows the error, which the formatter adds. -/
def Field.words : Field → List String
  | logger => ["logger"]
  | level => ["level", "coloredLevel", "highlight"]
  | timestamp => ["date", "time"]
  | message => ["message"]
  | thread => ["thread"]
  | marker => ["marker"]
  | pairs => ["mdc"]
  | caller => ["file", "line", "class", "method"]
  | error => []

/-- Two records hold the same in a field. -/
def Field.Same (first second : Record) : Field → Prop
  | logger => first.logger = second.logger
  | level => first.level = second.level
  | timestamp => first.timestamp = second.timestamp
  | message => first.message = second.message ∧ first.arguments = second.arguments
  | thread => first.thread = second.thread
  | marker => first.marker = second.marker
  | pairs => first.pairs = second.pairs
  | caller => first.caller = second.caller
  | error => first.error = second.error

/-- Two records hold the same in every field but one. -/
def Field.OnlyDifference (field : Field) (first second : Record) : Prop :=
  ∀ other, other ≠ field → other.Same first second

/-- Two records hold the same in every field that some words read. -/
def AlikeFor (words : List String) (first second : Record) : Prop :=
  ∀ word ∈ words, ∀ field : Field, word ∈ field.words → field.Same first second

/-- Records that differ in a field that no word reads are alike for the words. -/
theorem Field.OnlyDifference.alikeFor {field : Field} {first second : Record}
    (different : field.OnlyDifference first second) {words : List String}
    (unread : ∀ word ∈ words, word ∉ field.words) : AlikeFor words first second := by
  intro word used other reads
  refine different other ?_
  rintro rfl
  exact unread word used reads

/-! ## What a builder reads -/

/-- A builder of a word reads the fields of the word, and what it encloses. -/
def Builder.ReadsFieldsOf (builder : Builder) (word : String) : Prop :=
  ∀ spec context unit, builder.build spec context = .ok unit →
    ∀ first second, AlikeFor [word] first second →
      spec.enclosed.render first = spec.enclosed.render second → unit first = unit second

section Builders

variable {word : String}

theorem AlikeFor.same {words : List String} {first second : Record}
    (alike : AlikeFor words first second) (field : Field) (used : word ∈ words)
    (reads : word ∈ field.words) : field.Same first second :=
  alike word used field reads

theorem readsFieldsOf_field {shown : Renderer}
    (reads : ∀ first second, AlikeFor [word] first second → shown first = shown second) :
    (Words.field shown).ReadsFieldsOf word := by
  intro spec context unit built first second alike _
  cases built
  exact reads first second alike

theorem readsFieldsOf_constant (text : Context → String) :
    (Words.constant text).ReadsFieldsOf word := by
  intro spec context unit built first second _ _
  cases built
  rfl

theorem readsFieldsOf_caller {part : Caller → String} (reads : word ∈ Field.caller.words) :
    (Words.caller part).ReadsFieldsOf word := by
  refine readsFieldsOf_field fun first second alike => ?_
  have same : first.caller = second.caller := alike.same .caller List.mem_cons_self reads
  rw [same]

theorem readsFieldsOf_logger : Words.logger.ReadsFieldsOf "logger" := by
  intro spec context unit built first second alike _
  have same : first.logger = second.logger :=
    alike.same .logger List.mem_cons_self (by decide)
  simp only [Words.logger, Builder.plain] at built
  rcases number : spec.intParameter 0 with bad | _ | length <;> rw [number] at built
  · cases built
  · cases built
    exact same
  · simp only [bind, Except.bind] at built
    split at built
    · cases built
    · cases built
      simp only [same]

theorem readsFieldsOf_coloredLevel : Words.coloredLevel.ReadsFieldsOf "coloredLevel" := by
  intro spec context unit built first second alike _
  have same : first.level = second.level :=
    alike.same .level List.mem_cons_self (by decide)
  cases built
  simp only [same]

theorem readsFieldsOf_pairs : Words.pairs.ReadsFieldsOf "mdc" := by
  intro spec context unit built first second alike _
  have same : first.pairs = second.pairs :=
    alike.same .pairs List.mem_cons_self (by decide)
  simp only [Words.pairs, Builder.plain] at built
  split at built <;>
  · cases built
    simp only [same]

theorem readsFieldsOf_date {default : String} (reads : word ∈ Field.timestamp.words) :
    (Words.date default).ReadsFieldsOf word := by
  intro spec context unit built first second alike _
  have same : first.timestamp = second.timestamp :=
    alike.same .timestamp List.mem_cons_self reads
  simp only [Words.date, Builder.plain] at built
  split at built
  · cases built
  · cases zone : Words.chosenZone spec context with
    | error bad =>
        rw [zone] at built
        cases built
    | ok chosen =>
        rw [zone] at built
        cases built
        simp only [same]

/-- A word that changes the text it encloses reads that text only. -/
theorem readsFieldsOf_transformer
    (change : Spec → Context → Except BadParameter (String → String)) :
    (Builder.transformer change).ReadsFieldsOf word := by
  intro spec context unit built first second _ enclosed
  simp only [Builder.transformer] at built
  cases changed : change spec context with
  | error bad =>
      rw [changed] at built
      cases built
  | ok chosen =>
      rw [changed] at built
      cases built
      simp only [enclosed]

theorem readsFieldsOf_highlight : Words.highlight.ReadsFieldsOf "highlight" := by
  intro spec context unit built first second alike enclosed
  have same : first.level = second.level :=
    alike.same .level List.mem_cons_self (by decide)
  cases built
  simp only [same, enclosed]

theorem readsFieldsOf_words : ∀ entry ∈ Words.fields ++ Words.dates ++ Words.decorations,
    entry.2.1.ReadsFieldsOf entry.1 := by
  have level : Words.level.ReadsFieldsOf "level" := readsFieldsOf_field fun first second alike =>
    congrArg Level.name (alike.same .level List.mem_cons_self (by decide))
  have message : Words.message.ReadsFieldsOf "message" := by
    refine readsFieldsOf_field fun first second alike => ?_
    have same : first.message = second.message ∧ first.arguments = second.arguments :=
      alike.same .message List.mem_cons_self (by decide)
    rw [Record.formattedMessage, same.1, same.2]
    rfl
  have thread : Words.thread.ReadsFieldsOf "thread" :=
    readsFieldsOf_field fun first second alike =>
      alike.same .thread List.mem_cons_self (by decide)
  have marker : Words.marker.ReadsFieldsOf "marker" :=
    readsFieldsOf_field fun first second alike =>
      congrArg (Option.getD · "")
        (alike.same .marker List.mem_cons_self (by decide))
  have file : (Words.caller Caller.file).ReadsFieldsOf "file" :=
    readsFieldsOf_caller (by decide)
  have line : (Words.caller fun found => toString found.line.toNat).ReadsFieldsOf "line" :=
    readsFieldsOf_caller (by decide)
  have moduleName : (Words.caller Caller.module).ReadsFieldsOf "class" :=
    readsFieldsOf_caller (by decide)
  have function : (Words.caller fun found => found.function.getD "").ReadsFieldsOf "method" :=
    readsFieldsOf_caller (by decide)
  have date : (Words.date Words.dateFormat).ReadsFieldsOf "date" :=
    readsFieldsOf_date (by decide)
  have time : (Words.date Words.timeFormat).ReadsFieldsOf "time" :=
    readsFieldsOf_date (by decide)
  have replace : Words.replace.ReadsFieldsOf "replace" := readsFieldsOf_transformer _
  have color (chosen : Color) (bold : Option Emphasis) (name : String) :
      (Words.color chosen bold).ReadsFieldsOf name := readsFieldsOf_transformer _
  have emphasis (chosen : Emphasis) (name : String) :
      (Words.emphasis chosen).ReadsFieldsOf name := readsFieldsOf_transformer _
  simp only [Words.fields, Words.dates, Words.decorations, List.forall_mem_append,
    List.forall_mem_cons, List.forall_mem_map, List.forall_mem_flatMap, List.not_mem_nil,
    false_implies, implies_true, and_true, readsFieldsOf_logger, level,
    readsFieldsOf_coloredLevel, message, thread, marker, readsFieldsOf_pairs, file, line,
    moduleName, function, readsFieldsOf_constant, date, time, color, emphasis,
    readsFieldsOf_highlight, replace]

theorem readsFieldsOf_of_resolve? {name : String} {builder : Builder}
    (resolved : Registry.builtin.resolve? name = some builder) :
    builder.ReadsFieldsOf (Registry.builtin.canonical name) := by
  have every : Registry.builtin.Every fun word builder => builder.ReadsFieldsOf word :=
    Registry.every_builtin readsFieldsOf_words
  exact every _ builder resolved

end Builders

/-! ## What a tree reads -/

section Trees

variable {context : Context} {first second : Record}

/-- A directive shows the same of records that are alike for its word and that give the same
text inside of it. -/
theorem render_buildDirective {spec : Spec} {finish : Nat} {unit : Renderer}
    (built : buildDirective .builtin context spec finish = .ok unit)
    (alike : AlikeFor [Registry.builtin.canonical spec.word] first second)
    (enclosed : spec.enclosed.render first = spec.enclosed.render second) :
    unit first = unit second := by
  simp only [buildDirective, Registry.create] at built
  cases resolved : Registry.builtin.resolve? spec.word with
  | none =>
      rw [resolved] at built
      cases built
  | some builder =>
      rw [resolved] at built
      dsimp only at built
      rw [builder.instantiate_eq_map] at built
      cases made : builder.build spec context with
      | error bad =>
          rw [made] at built
          cases built
      | ok plain =>
          rw [made] at built
          cases built
          rw [justify_apply, justify_apply,
            readsFieldsOf_of_resolve? resolved spec context plain made first second alike enclosed]

theorem AlikeFor.append {words others : List String}
    (alike : AlikeFor (words ++ others) first second) :
    AlikeFor words first second ∧ AlikeFor others first second :=
  List.forall_mem_append.mp alike

-- The induction is on the tree, with one case for each kind of item.
mutual

/-- An item shows the same of records that are alike for its words. -/
theorem render_build (item : Item) {unit : Renderer}
    (built : item.build .builtin context = .ok unit)
    (alike : AlikeFor (usedWords .builtin [item]) first second) : unit first = unit second := by
  cases item with
  | literal text =>
      cases built
      rfl
  | percent =>
      cases built
      rfl
  | directive head inside parameters finish =>
      rw [usedWords_directive, ← List.singleton_append] at alike
      cases inside with
      | none => exact render_buildDirective built alike.append.1 rfl
      | some items =>
          simp only [Item.build] at built
          split at built
          · cases built
          next units made =>
            exact render_buildDirective built alike.append.1
              (render_buildAll items made alike.append.2)

/-- Items in a row show the same of records that are alike for their words. -/
theorem render_buildAll (items : List Item) {units : List Renderer}
    (built : buildAll .builtin context items = .ok units)
    (alike : AlikeFor (usedWords .builtin items) first second) :
    (Compiled.mk units).render first = (Compiled.mk units).render second := by
  cases items with
  | nil =>
      cases built
      rfl
  | cons item rest =>
      rw [usedWords_cons] at alike
      simp only [buildAll] at built
      split at built
      · cases built
      next unit made =>
        split at built
        · cases built
        next later madeLater =>
          cases built
          have here := render_build item made alike.append.1
          have behind := render_buildAll rest madeLater alike.append.2
          have divided (record : Record) : (Compiled.mk (unit :: later)).render record =
              unit record ++ (Compiled.mk later).render record := by
            rw [← Compiled.render_single unit, ← Compiled.render_append]
            rfl
          rw [divided, divided, here, behind]

end

end Trees

/-! ## What a pattern reads -/

theorem buildAll_of_compile {registry : Registry} {context : Context} {pattern : String}
    {compiled : Compiled} (compiles : registry.compile context pattern = .ok compiled) :
    buildAll registry context (readPattern registry.vocabulary pattern).items =
      .ok compiled.units := by
  simp only [Registry.compile, Registry.compileUntil] at compiles
  simp only [readPattern]
  generalize readItems registry.vocabulary none (.ofText pattern) = reading at compiles ⊢
  cases reading with
  | broken items fault behind =>
      dsimp only at compiles
      cases built : buildAll registry context items <;> rw [built] at compiles <;> cases compiles
  | complete items behind within =>
      dsimp only [Reading.items] at compiles ⊢
      cases built : buildAll registry context items with
      | error failure =>
          rw [built] at compiles
          cases compiles
      | ok units =>
          rw [built] at compiles
          cases compiles
          rfl

/-- A pattern of built-in words shows the same of records that are alike for its words. -/
theorem render_of_alikeFor {context : Context} {pattern : String} {compiled : Compiled}
    (compiles : Registry.builtin.compile context pattern = .ok compiled) {first second : Record}
    (alike : AlikeFor
      (usedWords .builtin (readPattern Registry.builtin.vocabulary pattern).items) first second) :
    compiled.render first = compiled.render second :=
  render_buildAll _ (buildAll_of_compile compiles) alike

/-- The diagnostic context has two names, its word and an alias. -/
theorem eq_of_canonical_mdc {name : String}
    (named : Registry.builtin.canonical name = "mdc") : name = "mdc" ∨ name = "X" := by
  have aliases : Registry.builtin.aliasesOf "mdc" = ["X"] := by decide +kernel
  rcases eq_or_mem_aliasesOf named with same | listed
  · exact .inl same
  · rw [aliases] at listed
    exact .inr (List.mem_singleton.mp listed)

/-- A line shows of a record only what the words of the pattern read, aliases included: if two
records differ in one field and no directive at any depth uses a word that reads it, then their
lines are equal.  So values of the diagnostic context come into a line through the word for them
and its alias only. -/
theorem render_eq_of_unread (context : Context) (pattern : String) (compiled : Compiled)
    (compiles : Registry.builtin.compile context pattern = .ok compiled)
    (first second : Record) :
    (∀ field : Field, field.OnlyDifference first second →
      (∀ word ∈ usedWords .builtin (readPattern Registry.builtin.vocabulary pattern).items,
        word ∉ field.words) →
      compiled.render first = compiled.render second) ∧
    (Field.pairs.OnlyDifference first second →
      "mdc" ∉ wordsOf (readPattern Registry.builtin.vocabulary pattern).items →
      "X" ∉ wordsOf (readPattern Registry.builtin.vocabulary pattern).items →
      compiled.render first = compiled.render second) := by
  have unread (field : Field) (different : field.OnlyDifference first second)
      (words : ∀ word ∈ usedWords .builtin
        (readPattern Registry.builtin.vocabulary pattern).items, word ∉ field.words) :
      compiled.render first = compiled.render second :=
    render_of_alikeFor compiles (different.alikeFor words)
  refine ⟨unread, fun different noWord noAlias => unread .pairs different ?_⟩
  intro word used reads
  rcases List.mem_map.mp used with ⟨name, written, rfl⟩
  rcases eq_of_canonical_mdc (List.mem_singleton.mp reads) with rfl | rfl
  · exact noWord written
  · exact noAlias written

/-- Words inside of a color and of an emphasis, with lengths, parameters and aliases, for
records that differ in the diagnostic context or in the marker. -/
theorem render_eq_of_unread_nested :
    let context : Context := { application := "shop", node := "east", console := ⟨true⟩ }
    let pattern := "%-6level%red(%-30bold(%5t: %m)) %c\x7b8\x7d"
    let items := (readPattern Registry.builtin.vocabulary pattern).items
    let record := Record.sample .epoch "main"
    let richer := record.withPair "token" "secret"
    let marked := { record with marker := some "audit" }
    Field.pairs.OnlyDifference record richer ∧ Field.marker.OnlyDifference record marked ∧
      "mdc" ∉ wordsOf items ∧ "X" ∉ wordsOf items ∧
      (∀ word ∈ usedWords .builtin items, word ∉ Field.marker.words) ∧
      ∃ compiled, Registry.builtin.compile context pattern = .ok compiled ∧
        compiled.render record =
          "INFO  \x1b[31m\x1b[1;m main: Hello world\x1b[m    \x1b[m o.e.a.Service" ∧
        compiled.render record = compiled.render richer ∧
        compiled.render record = compiled.render marked := by
  intro context pattern items record richer marked
  have accepted : (Registry.builtin.compile context pattern).toOption.any (fun compiled =>
      decide (compiled.render record =
        "INFO  \x1b[31m\x1b[1;m main: Hello world\x1b[m    \x1b[m o.e.a.Service")) = true := by
    decide +kernel
  have different : Field.pairs.OnlyDifference record richer := by
    intro other apart
    cases other <;> first | rfl | exact absurd rfl apart | exact ⟨rfl, rfl⟩
  have differentMarker : Field.marker.OnlyDifference record marked := by
    intro other apart
    cases other <;> first | rfl | exact absurd rfl apart | exact ⟨rfl, rfl⟩
  have noWord : "mdc" ∉ wordsOf items := by decide +kernel
  have noAlias : "X" ∉ wordsOf items := by decide +kernel
  have unread : ∀ word ∈ usedWords .builtin items, word ∉ Field.marker.words := by
    decide +kernel
  rcases exists_of_any_toOption accepted with ⟨compiled, done, shown⟩
  exact ⟨different, differentMarker, noWord, noAlias, unread, compiled, done,
    of_decide_eq_true shown,
    (render_eq_of_unread context pattern compiled done record richer).2 different noWord noAlias,
    (render_eq_of_unread context pattern compiled done record marked).1 .marker differentMarker
      unread⟩

end LogLayout.Pattern
