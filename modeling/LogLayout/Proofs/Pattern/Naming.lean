import LogLayout.CommandLine.Program
import LogLayout.Proofs.Pattern.Operations
import LogLayout.Proofs.Table

namespace LogLayout.Pattern

/-!
# Names in a registry

Words are registered and aliases are made in any order and with any names.  This module
states what holds of the names at every moment: a name is a word or an alias but never
both, every alias points straight at a word, and a name that is known stays known.  One
lemma for each operation says that it keeps this, and the statements about whole
sequences of operations follow by induction on them.
-/

namespace Registry

/-- No word is an alias, and every alias points at a word. -/
structure WellFormed (registry : Registry) : Prop where
  apart : ∀ name, registry.builders.contains name = true → registry.aliases.get? name = none
  direct : ∀ name word, registry.aliases.get? name = some word →
    registry.builders.contains word = true

/-- Every name that a registry knows is known to another one. -/
def KnownTo (registry other : Registry) : Prop :=
  ∀ name, registry.contains name = true → other.contains name = true

/-! ## Known names -/

section Names

variable {registry : Registry}

theorem WellFormed.contains_iff (wellFormed : registry.WellFormed) (name : String) :
    registry.contains name = true ↔
      registry.builders.contains name = true ∨ registry.aliases.contains name = true := by
  unfold contains resolve? canonical
  rw [Table.contains, Table.contains]
  cases pointing : registry.aliases.get? name with
  | none => simp only [Option.getD_none, Option.isSome_none, Bool.false_eq_true, or_false]
  | some word =>
      simp only [Option.getD_some, Option.isSome_some, or_true, iff_true]
      exact wellFormed.direct name word pointing

theorem KnownTo.refl (registry : Registry) : registry.KnownTo registry := fun _ => id

theorem KnownTo.trans {first second third : Registry} (earlier : first.KnownTo second)
    (later : second.KnownTo third) : first.KnownTo third :=
  fun name known => later name (earlier name known)

/-- Names stay known if no word is lost but to an alias, and no alias but to a word. -/
theorem KnownTo.of_names {other : Registry} (wellFormed : registry.WellFormed)
    (otherWellFormed : other.WellFormed)
    (words : ∀ name, registry.builders.contains name = true →
      other.builders.contains name = true ∨ other.aliases.contains name = true)
    (aliases : ∀ name, registry.aliases.contains name = true →
      other.builders.contains name = true ∨ other.aliases.contains name = true) :
    registry.KnownTo other := by
  intro name known
  rw [otherWellFormed.contains_iff]
  rcases (wellFormed.contains_iff name).mp known with isWord | isAlias
  · exact words name isWord
  · exact aliases name isAlias

/-! ## Registering a word -/

theorem WellFormed.register (wellFormed : registry.WellFormed) (word : String)
    (builder : Builder) : (registry.register word builder).WellFormed where
  apart name contained := by
    rw [Registry.register, Table.get?_erase]
    by_cases same : word = name
    · rw [if_pos same]
    · rw [if_neg same]
      exact wellFormed.apart name
        (((Table.contains_insert _ _ _ _).mp contained).resolve_left same)
  direct name target pointing := by
    rw [Registry.register, Table.get?_erase] at pointing
    by_cases same : word = name
    · rw [if_pos same] at pointing
      cases pointing
    · rw [if_neg same] at pointing
      exact (Table.contains_insert _ _ _ _).mpr (.inr (wellFormed.direct name target pointing))

theorem WellFormed.knownTo_register (wellFormed : registry.WellFormed) (word : String)
    (builder : Builder) : registry.KnownTo (registry.register word builder) := by
  refine .of_names wellFormed (wellFormed.register word builder) (fun name contained => ?_)
    (fun name contained => ?_)
  · exact .inl ((Table.contains_insert _ _ _ _).mpr (.inr contained))
  · by_cases same : word = name
    · exact .inl ((Table.contains_insert _ _ _ _).mpr (.inl same))
    · exact .inr ((Table.contains_erase _ _ _).mpr ⟨same, contained⟩)

/-! ## Making an alias -/

theorem WellFormed.redirect (wellFormed : registry.WellFormed) {name word : String}
    (different : name ≠ word) (contained : registry.builders.contains word = true) :
    (registry.redirect name word).WellFormed where
  apart other there := by
    rcases (Table.contains_erase _ _ _).mp there with ⟨apart, before⟩
    rw [Registry.redirect, Table.get?_insert, if_neg apart, Table.get?_map,
      wellFormed.apart other before]
    rfl
  direct other pointed pointing := by
    rw [Registry.redirect, Table.get?_insert, Table.get?_map] at pointing
    refine (Table.contains_erase _ _ _).mpr ?_
    by_cases same : name = other
    · rw [if_pos same] at pointing
      cases pointing
      exact ⟨different, contained⟩
    · rw [if_neg same, Option.map_eq_some_iff] at pointing
      rcases pointing with ⟨old, before, rfl⟩
      by_cases moved : old = name
      · rw [if_pos moved]
        exact ⟨different, contained⟩
      · rw [if_neg moved]
        exact ⟨fun same => moved same.symm, wellFormed.direct other old before⟩

theorem WellFormed.knownTo_redirect (wellFormed : registry.WellFormed) {name word : String}
    (different : name ≠ word) (contained : registry.builders.contains word = true) :
    registry.KnownTo (registry.redirect name word) := by
  refine .of_names wellFormed (wellFormed.redirect different contained) (fun other there => ?_)
    (fun other there => ?_)
  · by_cases same : name = other
    · exact .inr ((Table.contains_insert _ _ _ _).mpr (.inl same))
    · exact .inl ((Table.contains_erase _ _ _).mpr ⟨same, there⟩)
  · refine .inr ((Table.contains_insert _ _ _ _).mpr (.inr ?_))
    rw [Table.contains, Table.get?_map, Option.isSome_map]
    exact there

theorem WellFormed.addAlias (wellFormed : registry.WellFormed) (name target : String) :
    (registry.addAlias name target).1.WellFormed := by
  rcases registry.addAlias_cases name target with same | ⟨word, different, contained, moved⟩
  · rw [same]
    exact wellFormed
  · rw [moved]
    exact wellFormed.redirect different contained

theorem WellFormed.knownTo_addAlias (wellFormed : registry.WellFormed) (name target : String) :
    registry.KnownTo (registry.addAlias name target).1 := by
  rcases registry.addAlias_cases name target with same | ⟨word, different, contained, moved⟩
  · rw [same]
    exact .refl registry
  · rw [moved]
    exact wellFormed.knownTo_redirect different contained

/-- Making several aliases keeps a registry well-formed and its names known. -/
theorem WellFormed.aliasAll (wellFormed : registry.WellFormed) (target : String)
    (names : List String) :
    (registry.aliasAll target names).WellFormed ∧
      registry.KnownTo (registry.aliasAll target names) := by
  induction names generalizing registry with
  | nil => exact ⟨wellFormed, .refl registry⟩
  | cons name rest inductionHypothesis =>
      rcases inductionHypothesis (wellFormed.addAlias name target) with ⟨kept, known⟩
      exact ⟨kept, (wellFormed.knownTo_addAlias name target).trans known⟩

/-! ## Sequences of operations -/

/-- Every operation keeps a registry well-formed and its names known. -/
theorem WellFormed.perform (wellFormed : registry.WellFormed) (operation : Operation) :
    (registry.perform operation).WellFormed ∧
      registry.KnownTo (registry.perform operation) := by
  cases operation with
  | register word builder =>
      exact ⟨wellFormed.register word builder, wellFormed.knownTo_register word builder⟩
  | registerPlain word build =>
      exact ⟨wellFormed.register word _, wellFormed.knownTo_register word _⟩
  | registerTransformer word change =>
      exact ⟨wellFormed.register word _, wellFormed.knownTo_register word _⟩
  | addAlias name target =>
      exact ⟨wellFormed.addAlias name target, wellFormed.knownTo_addAlias name target⟩
  | aliasAll target names => exact wellFormed.aliasAll target names

/-- Operations in a row keep a registry well-formed and its names known. -/
theorem WellFormed.run (wellFormed : registry.WellFormed) (operations : List Operation) :
    (registry.run operations).WellFormed ∧ registry.KnownTo (registry.run operations) := by
  induction operations generalizing registry with
  | nil => exact ⟨wellFormed, .refl registry⟩
  | cons operation rest inductionHypothesis =>
      rcases wellFormed.perform operation with ⟨kept, known⟩
      rcases inductionHypothesis kept with ⟨finallyKept, finallyKnown⟩
      exact ⟨finallyKept, known.trans finallyKnown⟩

theorem wellFormed_empty : empty.WellFormed where
  apart _ contained := by cases contained
  direct _ _ pointing := by cases pointing

theorem wellFormed_builtin : builtin.WellFormed := by
  rw [builtin_eq_run]
  exact (wellFormed_empty.run _).1

/-! ## Lists of names -/

/-- The aliases in rising order, without their words. -/
def aliasNames (registry : Registry) : List String := registry.aliasPairs.map Prod.fst

def aliasesOf (registry : Registry) (word : String) : List String :=
  (registry.aliasPairs.filter fun pair => pair.2 = word).map Prod.fst

theorem WellFormed.contains_iff_mem (wellFormed : registry.WellFormed) (name : String) :
    registry.contains name = true ↔ name ∈ registry.words ++ registry.aliasNames := by
  rw [wellFormed.contains_iff, List.mem_append]
  exact or_congr (registry.builders.mem_keys_iff name).symm
    (registry.aliases.mem_keys_iff name).symm

theorem WellFormed.not_mem_aliasNames (wellFormed : registry.WellFormed) {name : String}
    (word : name ∈ registry.words) : name ∉ registry.aliasNames := by
  intro isAlias
  have pointing := (registry.aliases.mem_keys_iff name).mp isAlias
  rw [Table.contains,
    wellFormed.apart name ((registry.builders.mem_keys_iff name).mp word)] at pointing
  cases pointing

theorem WellFormed.nodup_names (wellFormed : registry.WellFormed) :
    (registry.words ++ registry.aliasNames).Nodup := by
  refine List.nodup_append.mpr ⟨registry.builders.nodup_keys, registry.aliases.nodup_keys, ?_⟩
  intro word isWord name isAlias same
  exact wellFormed.not_mem_aliasNames isWord (same ▸ isAlias)

theorem mem_aliasesOf_iff {name word : String} :
    name ∈ registry.aliasesOf word ↔ registry.aliases.get? name = some word := by
  rw [← registry.aliases.mem_entries_iff, aliasesOf, List.mem_map]
  constructor
  · rintro ⟨⟨other, target⟩, filtered, rfl⟩
    rcases List.mem_filter.mp filtered with ⟨listed, same⟩
    have pointing : target = word := of_decide_eq_true same
    exact pointing ▸ listed
  · exact fun listed => ⟨(name, word), List.mem_filter.mpr ⟨listed, decide_eq_true rfl⟩, rfl⟩

/-- An alias stands once behind its word and behind no other one. -/
theorem count_aliasesOf {pair : String × String} (listed : pair ∈ registry.aliasPairs)
    (word : String) :
    (registry.aliasesOf word).count pair.1 = if word = pair.2 then 1 else 0 := by
  have found := (registry.aliases.mem_entries_iff pair.1 pair.2).mp listed
  have nodup : (registry.aliasesOf word).Nodup :=
    (List.Sublist.map Prod.fst List.filter_sublist).nodup registry.aliases.nodup_keys
  rw [nodup.count]
  simp only [mem_aliasesOf_iff, found, Option.some.injEq, eq_comm]

end Names

/-- Whatever is done to the empty or to the built-in registry, no name is a word and an
alias, every alias points at a word, a name that was known at some moment stays known,
and the words and the aliases, each in strictly rising order, list every known name
once.  So the list that is printed has every alias behind its own word, once, and behind
no other. -/
theorem run_names (start : Registry) (initial : start = empty ∨ start = builtin)
    (operations : List Operation) :
    let registry := start.run operations
    (∀ name ∈ registry.words, name ∉ registry.aliasNames) ∧
    (∀ pair ∈ registry.aliasPairs, pair.2 ∈ registry.words) ∧
    (∀ earlier later, operations = earlier ++ later → ∀ name,
      (start.run earlier).contains name = true → registry.contains name = true) ∧
    (∀ name, registry.contains name = true ↔ name ∈ registry.words ++ registry.aliasNames) ∧
    (registry.words ++ registry.aliasNames).Nodup ∧
    registry.words.Pairwise (· < ·) ∧
    registry.aliasNames.Pairwise (· < ·) ∧
    (CommandLine.listWords registry).output =
      String.join (registry.words.map fun word =>
        if registry.aliasesOf word = [] then word ++ "\n"
        else word ++ " (" ++ String.intercalate ", " (registry.aliasesOf word) ++ ")\n") ∧
    (∀ pair ∈ registry.aliasPairs, ∀ word,
      (registry.aliasesOf word).count pair.1 = if word = pair.2 then 1 else 0) := by
  intro registry
  have startWellFormed : start.WellFormed := by
    rcases initial with rfl | rfl
    · exact wellFormed_empty
    · exact wellFormed_builtin
  have wellFormed : registry.WellFormed := (startWellFormed.run operations).1
  refine ⟨fun name => wellFormed.not_mem_aliasNames, fun pair listed => ?_, ?_,
    wellFormed.contains_iff_mem, wellFormed.nodup_names, registry.builders.pairwise_keys,
    registry.aliases.pairwise_keys, ?_, fun pair listed word => count_aliasesOf listed word⟩
  · have pointing := (registry.aliases.mem_entries_iff pair.1 pair.2).mp listed
    exact (registry.builders.mem_keys_iff pair.2).mpr (wellFormed.direct _ _ pointing)
  · intro earlier later same name known
    have split : registry = (start.run earlier).run later :=
      (congrArg start.run same).trans (run_append start earlier later)
    rw [split]
    exact ((startWellFormed.run earlier).1.run later).2 name known
  · have line (word : String) : CommandLine.wordLine registry word =
        if registry.aliasesOf word = [] then word ++ "\n"
        else word ++ " (" ++ String.intercalate ", " (registry.aliasesOf word) ++ ")\n" := by
      simp only [CommandLine.wordLine, List.isEmpty_iff]
      rfl
    exact congrArg (fun lines => String.join (registry.words.map lines)) (funext line)

/-- A word that becomes an alias takes its own aliases along, also one of which has
become a word in between. -/
theorem run_names_redirected :
    let registry := builtin.run [.register "m" Words.thread, .addAlias "message" "level"]
    registry.contains "msg" = true ∧ "m" ∈ registry.words ∧
      ("msg", "level") ∈ registry.aliasPairs ∧
      (registry.words ++ registry.aliasNames).Nodup := by
  intro registry
  have names := run_names builtin (.inr rfl)
    [.register "m" Words.thread, .addAlias "message" "level"]
  refine ⟨by decide +kernel, by decide +kernel, by decide +kernel, names.2.2.2.2.1⟩

end Registry
end LogLayout.Pattern
