import LogLayout.Proofs.Pattern.Decorating
import LogLayout.Proofs.Pattern.Enclosing
import LogLayout.Proofs.Pattern.Heads
import LogLayout.Proofs.Pattern.Trees

namespace LogLayout.Pattern

open Console (Decorates)

/-!
# Patterns with colors and without

What is read of a pattern does not depend on the console, and what is built of it only where a
word decorates.  So a pattern compiles with colors exactly if it compiles without them, and
the first fault is the same.

The lines differ in whole sequences, as long as nothing looks into a decorated text.  Lengths
count the characters of a sequence and may cut it, and an expression may match them.  Neither
does harm anywhere else: where no directive inside decorates, the texts are equal.
-/

/-! ## Trees that decorate -/

def Item.decorates (registry : Registry) : Item → Bool
  | .directive head _ _ _ => Words.decorating.contains (registry.canonical head.word)
  | _ => false

/-- Whether an item carries lengths or replaces, so that it looks into the text it encloses. -/
def Item.inspects (registry : Registry) : Item → Bool
  | .directive head _ _ _ =>
      !head.lengths.isUnlimited || registry.canonical head.word = "replace"
  | _ => false

/-- No directive of some items, at any depth, decorates. -/
def Undecorated (registry : Registry) (items : List Item) : Prop :=
  ∀ directive ∈ directivesOf items, directive.decorates registry = false

/-- No directive that is or encloses one that decorates carries lengths or replaces. -/
def Uninspected (registry : Registry) (items : List Item) : Prop :=
  ∀ directive ∈ directivesOf items,
    (∃ inner ∈ directive.directives, inner.decorates registry = true) →
      directive.inspects registry = false

instance (registry : Registry) (items : List Item) : Decidable (Undecorated registry items) :=
  inferInstanceAs (Decidable (∀ directive ∈ directivesOf items,
    directive.decorates registry = false))

instance (registry : Registry) (items : List Item) : Decidable (Uninspected registry items) :=
  inferInstanceAs (Decidable (∀ directive ∈ directivesOf items,
    (∃ inner ∈ directive.directives, inner.decorates registry = true) →
      directive.inspects registry = false))

/-- The items that were read, up to the first fault of the notation. -/
def Reading.items {bound : Nat} : Reading (List Item) bound → List Item
  | .complete items _ _ => items
  | .broken items _ _ => items

section Trees

variable {registry : Registry} {item : Item} {items rest : List Item} {head : Head}
  {inside : Option (List Item)} {parameters : List String} {finish : Nat}

theorem undecorated_cons_iff :
    Undecorated registry (item :: rest) ↔
      Undecorated registry [item] ∧ Undecorated registry rest := by
  simp only [Undecorated, directivesOf, List.append_nil, List.forall_mem_append]

theorem undecorated_directive_iff :
    Undecorated registry [.directive head inside parameters finish] ↔
      registry.canonical head.word ∉ Words.decorating ∧
        Undecorated registry (inside.getD []) := by
  simp only [Undecorated, directivesOf, List.append_nil, directives_directive,
    List.forall_mem_cons, Item.decorates, List.contains_eq_mem, decide_eq_false_iff_not]

/-- Where nothing decorates, nothing looks into decorated text. -/
theorem Undecorated.uninspected (undecorated : Undecorated registry items) :
    Uninspected registry items := by
  rintro directive listed ⟨inner, inside, decorates⟩
  have plain := undecorated inner (directivesOf_subset items directive listed inside)
  rw [decorates] at plain
  cases plain

end Trees

/-! ## Clean patterns -/

/-- No escape character is in the texts of some items or in the names of a context, and nothing
looks into decorated texts. -/
structure Clean (registry : Registry) (context : Context) (items : List Item) : Prop where
  names : context.Unescaped
  texts : ∀ text ∈ textsOf items, Unescaped text.toList
  uninspected : Uninspected registry items

namespace Clean

variable {registry : Registry} {context : Context} {item : Item} {rest : List Item} {head : Head}
  {enclosed : Option (List Item)} {listed : List String} {finish : Nat}

theorem cons (clean : Clean registry context (item :: rest)) :
    Clean registry context [item] ∧ Clean registry context rest := by
  rcases clean with ⟨names, texts, uninspected⟩
  simp only [textsOf, List.forall_mem_append] at texts
  simp only [Uninspected, directivesOf, List.forall_mem_append] at uninspected
  refine ⟨⟨names, ?_, ?_⟩, names, texts.2, uninspected.2⟩
  · simpa only [textsOf, List.append_nil] using texts.1
  · simpa only [Uninspected, directivesOf, List.append_nil] using uninspected.1

theorem inside (clean : Clean registry context [.directive head enclosed listed finish]) :
    Clean registry context (enclosed.getD []) := by
  rcases clean with ⟨names, texts, uninspected⟩
  simp only [textsOf, texts_directive, List.append_nil, List.forall_mem_append] at texts
  simp only [Uninspected, directivesOf, List.append_nil, directives_directive,
    List.forall_mem_cons] at uninspected
  exact ⟨names, texts.1, uninspected.2⟩

theorem parameters (clean : Clean registry context [.directive head enclosed listed finish]) :
    ∀ parameter ∈ listed, Unescaped parameter.toList := by
  have texts := clean.texts
  simp only [textsOf, texts_directive, List.append_nil, List.forall_mem_append] at texts
  exact texts.2

theorem not_inspects (clean : Clean registry context [.directive head enclosed listed finish])
    (decorated : ¬Undecorated registry [.directive head enclosed listed finish]) :
    head.lengths.isUnlimited = true ∧ registry.canonical head.word ≠ "replace" := by
  have uninspected := clean.uninspected
  simp only [Uninspected, directivesOf, List.append_nil, directives_directive,
    List.forall_mem_cons] at uninspected
  simp only [Undecorated, directivesOf, List.append_nil, directives_directive,
    Classical.not_forall, Bool.not_eq_false, exists_prop] at decorated
  simpa only [Item.inspects, Bool.or_eq_false_iff, Bool.not_eq_false', decide_eq_false_iff_not]
    using uninspected.1 decorated

end Clean

/-! ## What is built -/

/-- Two outcomes are values that are related, or the same error. -/
inductive Matched {Error First Second : Type} (related : First → Second → Prop) :
    Except Error First → Except Error Second → Prop where
  | ok {first : First} {second : Second} (values : related first second) :
    Matched related (.ok first) (.ok second)
  | error (failure : Error) : Matched related (.error failure) (.error failure)

/-- Outcomes whose errors are changed in one way still match. -/
theorem Matched.mapError {Error Other First Second : Type} {related : First → Second → Prop}
    {first : Except Error First} {second : Except Error Second}
    (matched : Matched related first second) (change : Error → Other) :
    Matched related (first.mapError change) (second.mapError change) := by
  cases matched with
  | ok values => exact .ok values
  | error failure => exact .error (change failure)

/-- What some items show with decoration, and what they show without it. -/
structure Shades (registry : Registry) (context : Context) (items : List Item)
    (colored plain : Compiled) : Prop where
  same : Undecorated registry items → colored = plain
  decorates : Clean registry context items → ∀ record : Record, record.Unescaped →
    Decorates (colored.render record).toList (plain.render record).toList

namespace Shades

variable {registry : Registry} {context : Context}

theorem nil : Shades registry context [] .empty .empty where
  same _ := rfl
  decorates _ _ _ := .nil

theorem cons {item : Item} {rest : List Item} {first second : Renderer}
    {colored plain : Compiled}
    (here : Shades registry context [item] (.single first) (.single second))
    (later : Shades registry context rest colored plain) :
    Shades registry context (item :: rest) (.single first ++ colored)
      (.single second ++ plain) where
  same undecorated := by
    rcases undecorated_cons_iff.mp undecorated with ⟨front, back⟩
    rw [here.same front, later.same back]
  decorates clean record unescaped := by
    rw [Compiled.render_append, Compiled.render_append, String.toList_append,
      String.toList_append]
    exact (here.decorates clean.cons.1 record unescaped).append
      (later.decorates clean.cons.2 record unescaped)

/-- A part that is built alike shows no escape character in a clean pattern. -/
theorem unit {item : Item} {part : Renderer}
    (unescaped : Clean registry context [item] → ∀ record : Record, record.Unescaped →
      Unescaped (part record).toList) :
    Shades registry context [item] (.single part) (.single part) where
  same _ := rfl
  decorates clean record good := by
    rw [Compiled.render_single]
    exact .of_not_mem (unescaped clean record good)

end Shades

/-! ## Directives -/

def Context.colored (context : Context) : Context := context.withConsole ⟨true⟩

def Context.plain (context : Context) : Context := context.withConsole .plain

/-- Lengths bring no escape character into the text of a part. -/
theorem unescaped_justify (lengths : Lengths) {unit : Renderer} {record : Record}
    (unescaped : Unescaped (unit record).toList) :
    Unescaped (justify lengths unit record).toList := by
  rw [justify_apply, Lengths.apply, String.toList_ofList]
  exact lengths.unescaped_applyChars unescaped

/-- What a directive encloses, of which there may be nothing, with colors and without. -/
structure ShadesInside (context : Context) (enclosed : Option (List Item))
    (first second : Option Compiled) : Prop where
  same : Undecorated .builtin (enclosed.getD []) → first = second
  decorates : Clean .builtin context (enclosed.getD []) → ∀ record : Record, record.Unescaped →
    Decorates ((first.getD .empty).render record).toList
      ((second.getD .empty).render record).toList

section Directives

variable {context : Context} {head : Head} {enclosed : Option (List Item)}
  {parameters : List String} {finish : Nat} {builder : Builder} {first second : Option Compiled}

/-- A word that shows fields builds the same with colors and without. -/
theorem matched_of_showsFields (shows : builder.ShowsFields) :
    Matched (fun colored plain => Shades .builtin context
        [.directive head enclosed parameters finish] (.single colored) (.single plain))
      (builder.instantiate ⟨head, parameters, first⟩ context.colored)
      (builder.instantiate ⟨head, parameters, second⟩ context.plain) := by
  have alike (inside : Option Compiled) (console : Console) :
      builder.build ⟨head, parameters, inside⟩ (context.withConsole console) =
        builder.build ⟨head, parameters, none⟩ context :=
    shows.build_eq ⟨head, parameters, none⟩ context inside console
  rw [builder.instantiate_eq_map, builder.instantiate_eq_map, Context.colored, Context.plain,
    alike, alike]
  cases built : builder.build ⟨head, parameters, none⟩ context with
  | error bad => exact .error bad
  | ok renderer =>
      exact .ok (Shades.unit fun clean record unescaped => unescaped_justify head.lengths
        (shows.unescaped _ context renderer built clean.parameters clean.names record unescaped))

/-- Decoration adds whole sequences to a text that may be decorated itself. -/
theorem shades_decorate {inner other : Renderer} {color : Record → Option Color}
    {emphasis : Record → Option Emphasis}
    (listed : Registry.builtin.canonical head.word ∈ Words.decorating)
    (shown : Clean .builtin context [.directive head enclosed parameters finish] →
      ∀ record : Record, record.Unescaped →
        Decorates (inner record).toList (other record).toList) :
    Shades .builtin context [.directive head enclosed parameters finish]
      (.single (justify head.lengths fun record =>
        (Console.mk true).decorate (color record) (emphasis record) (inner record)))
      (.single (justify head.lengths fun record =>
        Console.plain.decorate (color record) (emphasis record) (other record))) where
  same undecorated := absurd listed (undecorated_directive_iff.mp undecorated).1
  decorates clean record unescaped := by
    have unlimited := (clean.not_inspects fun undecorated =>
      (undecorated_directive_iff.mp undecorated).1 listed).1
    rw [justify, if_pos unlimited, justify, if_pos unlimited, Compiled.render_single,
      Compiled.render_single, Console.decorate_plain]
    exact (shown clean record unescaped).decorate ⟨true⟩ (color record) (emphasis record)

/-- A word that replaces builds the same around equal patterns.  Around a decorated pattern it
is refused with the same flaw, if it is refused at all. -/
theorem matched_of_changes (changes : builder.Changes)
    (named : Registry.builtin.canonical head.word = "replace")
    (inner : ShadesInside context enclosed first second) :
    Matched (fun colored plain => Shades .builtin context
        [.directive head enclosed parameters finish] (.single colored) (.single plain))
      (builder.instantiate ⟨head, parameters, first⟩ context.colored)
      (builder.instantiate ⟨head, parameters, second⟩ context.plain) := by
  rcases changes.build_eq ⟨head, parameters, none⟩ with ⟨change, build, unescaped⟩
  have alike (inside : Option Compiled) (context : Context) :
      builder.build ⟨head, parameters, inside⟩ context =
        change.map fun change record => change ((inside.getD .empty).render record) :=
    build inside context
  rw [builder.instantiate_eq_map, builder.instantiate_eq_map, alike, alike]
  cases made : change with
  | error bad => exact .error bad
  | ok changed =>
      by_cases undecorated : Undecorated .builtin (enclosed.getD [])
      · have decorates := inner.decorates
        rw [← inner.same undecorated] at decorates ⊢
        exact .ok (Shades.unit fun clean record good => unescaped_justify head.lengths
          (unescaped changed made clean.parameters _ (decorates clean.inside record good).not_mem))
      · refine .ok ⟨fun none => ?_, fun clean _ _ => ?_⟩
        · exact absurd (undecorated_directive_iff.mp none).2 undecorated
        · exact absurd named (clean.not_inspects fun none =>
            undecorated (undecorated_directive_iff.mp none).2).2

/-- Whatever a built-in word does, it is refused with the same flaw with colors and without,
or the line with colors is the one without with whole sequences put in. -/
theorem matched_instantiate (resolved : Registry.builtin.resolve? head.word = some builder)
    (inner : ShadesInside context enclosed first second) :
    Matched (fun colored plain => Shades .builtin context
        [.directive head enclosed parameters finish] (.single colored) (.single plain))
      (builder.instantiate ⟨head, parameters, first⟩ context.colored)
      (builder.instantiate ⟨head, parameters, second⟩ context.plain) := by
  cases makes_of_resolve? resolved with
  | fields shows => exact matched_of_showsFields shows
  | replacement named changes => exact matched_of_changes changes named inner
  | decoration listed wraps =>
      rcases wraps.build_eq with ⟨color, emphasis, build, -⟩
      rw [builder.instantiate_eq_map, builder.instantiate_eq_map, build, build]
      exact .ok (shades_decorate (List.mem_cons_of_mem _ listed) fun clean =>
        inner.decorates clean.inside)
  | level named level =>
      subst level
      rw [Builder.instantiate_eq_map, Builder.instantiate_eq_map, build_coloredLevel,
        build_coloredLevel]
      exact .ok (shades_decorate (named ▸ List.mem_cons_self) fun _ record _ =>
        .of_not_mem (show Unescaped record.level.name.toList by cases record.level <;> decide))

end Directives

/-! ## Trees -/

section Building

variable (context : Context)

theorem matched_buildDirective (head : Head) (enclosed : Option (List Item))
    (parameters : List String) (finish : Nat) {first second : Option Compiled}
    (inner : ShadesInside context enclosed first second) :
    Matched (fun colored plain => Shades .builtin context
        [.directive head enclosed parameters finish] (.single colored) (.single plain))
      (buildDirective .builtin context.colored ⟨head, parameters, first⟩ finish)
      (buildDirective .builtin context.plain ⟨head, parameters, second⟩ finish) := by
  refine Matched.mapError ?_ _
  simp only [Registry.create, Spec.word]
  cases resolved : Registry.builtin.resolve? head.word with
  | none => exact .error _
  | some builder => exact (matched_instantiate resolved inner).mapError _

-- The induction is on the tree.  A failure inside is the same on both sides and is passed on,
-- so that only parts that were built in both contexts have to be compared.
mutual

theorem matched_build (item : Item) :
    Matched (fun colored plain => Shades .builtin context [item] (.single colored) (.single plain))
      (item.build .builtin context.colored) (item.build .builtin context.plain) := by
  cases item with
  | literal text =>
      exact .ok (Shades.unit fun clean _ _ => clean.texts text (by simp [textsOf, Item.texts]))
  | percent => exact .ok (Shades.unit fun _ _ _ => by decide)
  | directive head inside parameters finish =>
      cases inside with
      | none =>
          exact matched_buildDirective context head none parameters finish
            ⟨fun _ => rfl, fun _ _ _ => .nil⟩
      | some items =>
          have inner := matched_buildAll items
          simp only [Item.build]
          generalize buildAll .builtin context.colored items = colored,
            buildAll .builtin context.plain items = plain at inner ⊢
          cases inner with
          | error failure => exact .error failure
          | ok inner =>
              exact matched_buildDirective context head (some items) parameters finish
                ⟨fun undecorated => congrArg some (inner.same undecorated), inner.decorates⟩

theorem matched_buildAll (items : List Item) :
    Matched (fun colored plain => Shades .builtin context items ⟨colored⟩ ⟨plain⟩)
      (buildAll .builtin context.colored items) (buildAll .builtin context.plain items) := by
  cases items with
  | nil => exact .ok Shades.nil
  | cons item rest =>
      have here := matched_build item
      have later := matched_buildAll rest
      simp only [buildAll]
      generalize item.build .builtin context.colored = colored,
        item.build .builtin context.plain = plain at here ⊢
      cases here with
      | error failure => exact .error failure
      | ok here =>
          dsimp only
          generalize buildAll .builtin context.colored rest = coloredRest,
            buildAll .builtin context.plain rest = plainRest at later ⊢
          cases later with
          | error failure => exact .error failure
          | ok later => exact .ok (Shades.cons here later)

end

end Building

/-! ## Whole patterns -/

/-- A text comes to the same failure with colors and without, or to parts that match, and
then it is compiled up to the same place. -/
theorem matched_compileUntil (context : Context) (closing : Option Char) (cursor : Cursor) :
    Matched (fun colored plain =>
        Shades .builtin context (readItems Registry.builtin.vocabulary closing cursor).items
          colored.1 plain.1 ∧ colored.2 = plain.2)
      (Registry.builtin.compileUntil context.colored closing cursor)
      (Registry.builtin.compileUntil context.plain closing cursor) := by
  unfold Registry.compileUntil
  cases readItems Registry.builtin.vocabulary closing cursor with
  | complete items behind within =>
      have built := matched_buildAll context items
      dsimp only [Reading.items]
      generalize buildAll .builtin context.colored items = colored,
        buildAll .builtin context.plain items = plain at built ⊢
      cases built with
      | error failure => exact .error failure
      | ok shades => exact .ok ⟨shades, rfl⟩
  | broken items fault behind =>
      have built := matched_buildAll context items
      dsimp only
      generalize buildAll .builtin context.colored items = colored,
        buildAll .builtin context.plain items = plain at built ⊢
      cases built with
      | error failure => exact .error failure
      | ok shades => exact .error (Failure.mk fault behind.position)

/-- A pattern comes to the same fault with colors and without, or to parts that match. -/
theorem matched_compile (context : Context) (pattern : String) :
    Matched (Shades .builtin context (readPattern Registry.builtin.vocabulary pattern).items)
      (Registry.builtin.compile context.colored pattern)
      (Registry.builtin.compile context.plain pattern) := by
  have matched := matched_compileUntil context none (.ofText pattern)
  unfold Registry.compile
  generalize Registry.builtin.compileUntil context.colored none (.ofText pattern) = colored,
    Registry.builtin.compileUntil context.plain none (.ofText pattern) = plain at matched ⊢
  cases matched with
  | error failure => exact .error failure.fault
  | ok shades => exact .ok shades.1

/-- The texts of a pattern have no escape characters if the pattern has none. -/
theorem unescaped_of_mem_texts (vocabulary : Vocabulary) {pattern : String}
    (unescaped : Unescaped pattern.toList) :
    ∀ text ∈ textsOf (readPattern vocabulary pattern).items, Unescaped text.toList := by
  have made := madeOf_readItems vocabulary _ none (.ofText pattern) rfl
  change ∀ text ∈ textsOf (readItems vocabulary none (.ofText pattern)).items, _
  intro text listed
  refine unescaped.subset ?_
  generalize readItems vocabulary none (.ofText pattern) = reading at made listed
  cases reading with
  | complete items behind within => exact made.1 text listed
  | broken items fault behind => exact made text listed

/-- A pattern of built-in words compiles with colors exactly if it compiles without them, and
comes to the same fault otherwise.  If there is no escape character in it, in the names of the
context and in the texts of the record, and no directive that is or encloses one that decorates
carries lengths or replaces, then the line with colors is the plain line once all sequences
are taken out. -/
theorem compile_colored (context : Context) (pattern : String) :
    (∃ fault, Registry.builtin.compile context.colored pattern = .error fault ∧
      Registry.builtin.compile context.plain pattern = .error fault) ∨
    ∃ colored plain, Registry.builtin.compile context.colored pattern = .ok colored ∧
      Registry.builtin.compile context.plain pattern = .ok plain ∧
      (Unescaped pattern.toList → context.Unescaped →
        Uninspected .builtin (readPattern Registry.builtin.vocabulary pattern).items →
        ∀ record : Record, record.Unescaped →
          Console.visible (colored.render record) = plain.render record) := by
  have matched := matched_compile context pattern
  generalize Registry.builtin.compile context.colored pattern = first,
    Registry.builtin.compile context.plain pattern = second at matched ⊢
  cases matched with
  | error fault => exact .inl ⟨fault, rfl, rfl⟩
  | @ok colored plain shades =>
      refine .inr ⟨colored, plain, rfl, rfl, fun unescaped names uninspected record good => ?_⟩
      have clean : Clean .builtin context (readPattern Registry.builtin.vocabulary pattern).items :=
        ⟨names, unescaped_of_mem_texts _ unescaped, uninspected⟩
      rw [Console.visible, (shades.decorates clean record good).visibleChars_eq,
        String.ofList_toList]

/-- Decoration inside of decoration, with plain directives that have lengths inside and next to
it. -/
theorem compile_colored_nested :
    let context : Context := { application := "shop", node := "east", console := .plain }
    let pattern := "%-6level%red(%bold(%5thread: %message))%coloredLevel"
    let record := Record.sample .epoch "main"
    Unescaped pattern.toList ∧ context.Unescaped ∧ record.Unescaped ∧
      Uninspected .builtin (readPattern Registry.builtin.vocabulary pattern).items ∧
      ∃ colored plain, Registry.builtin.compile context.colored pattern = .ok colored ∧
        Registry.builtin.compile context.plain pattern = .ok plain ∧
        colored.render record =
          "INFO  \x1b[31m\x1b[1;m main: Hello world\x1b[m\x1b[m\x1b[34mINFO\x1b[m" ∧
        Console.visible (colored.render record) = plain.render record := by
  intro context pattern record
  have accepted : (Registry.builtin.compile context.colored pattern).toOption.any (fun colored =>
      decide (colored.render record =
        "INFO  \x1b[31m\x1b[1;m main: Hello world\x1b[m\x1b[m\x1b[34mINFO\x1b[m")) = true := by
    decide +kernel
  have unescaped : Unescaped pattern.toList := by decide +kernel
  have names : context.Unescaped := ⟨by decide, by decide⟩
  have good : record.Unescaped := by constructor <;> decide +kernel
  have uninspected :
      Uninspected .builtin (readPattern Registry.builtin.vocabulary pattern).items := by
    decide +kernel
  rcases exists_of_any_toOption accepted with ⟨line, done, shown⟩
  rcases compile_colored context pattern with
    ⟨fault, failed, -⟩ | ⟨colored, plain, yes, other, same⟩
  · rw [done] at failed
    cases failed
  · rw [done] at yes
    cases yes
    exact ⟨unescaped, names, good, uninspected, line, plain, done, other,
      of_decide_eq_true shown, same unescaped names uninspected record good⟩

end LogLayout.Pattern
