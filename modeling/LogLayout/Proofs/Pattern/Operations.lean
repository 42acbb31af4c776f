import LogLayout.Pattern.Words

namespace LogLayout.Pattern

/-!
# Sequences of operations on a registry

A registry is changed by registering words and by making aliases.  The built-in registry
is the result of such a sequence of operations on the empty one, so that whatever every
operation keeps holds of it and of all that is made of it.

What is shown here concerns the builders: a registry holds no other builders than those
that were registered, each under the word that it was registered with.
-/

/-- A change of a registry. -/
inductive Operation where
  | register (word : String) (builder : Builder)
  | registerPlain (word : String) (build : Spec → Context → Except BadParameter Renderer)
  | registerTransformer (word : String)
    (change : Spec → Context → Except BadParameter (String → String))
  | addAlias (name target : String)
  | aliasAll (target : String) (names : List String)

def Operation.entry? : Operation → Option (String × Builder)
  | .register word builder => some (word, builder)
  | .registerPlain word build => some (word, .plain build)
  | .registerTransformer word change => some (word, .transformer change)
  | .addAlias .. => none
  | .aliasAll .. => none

namespace Registry

def perform (registry : Registry) : Operation → Registry
  | .register word builder => registry.register word builder
  | .registerPlain word build => registry.register word (.plain build)
  | .registerTransformer word change => registry.register word (.transformer change)
  | .addAlias name target => (registry.addAlias name target).1
  | .aliasAll target names => registry.aliasAll target names

def run (registry : Registry) (operations : List Operation) : Registry :=
  operations.foldl perform registry

theorem run_append (registry : Registry) (earlier later : List Operation) :
    registry.run (earlier ++ later) = (registry.run earlier).run later := List.foldl_append

def builtinOperations : List Operation :=
  (Words.fields ++ Words.dates ++ Words.decorations).flatMap fun entry =>
    [.register entry.1 entry.2.1, .aliasAll entry.1 entry.2.2]

theorem builtin_eq_run : builtin = empty.run builtinOperations := by
  rw [run, builtinOperations, List.foldl_flatMap]
  rfl

/-! ## Making an alias -/

/-- A registry after one of its names has been made an alias of a word, if it was not
that word. -/
def redirect (registry : Registry) (name word : String) : Registry :=
  ⟨registry.builders.erase name,
    (registry.aliases.map fun other => if other = name then word else other).insert name word⟩

/-- Making an alias changes nothing, or it makes a name an alias of another word. -/
theorem addAlias_cases (registry : Registry) (name target : String) :
    (registry.addAlias name target).1 = registry ∨
      ∃ word, name ≠ word ∧ registry.builders.contains word = true ∧
        (registry.addAlias name target).1 = registry.redirect name word := by
  unfold addAlias
  dsimp only
  split
  next contained =>
    split
    next => exact .inl rfl
    next different => exact .inr ⟨_, different, contained, rfl⟩
  next => exact .inl rfl

/-! ## Builders -/

/-- Every word of a registry has a property together with its builder. -/
def Every (property : String → Builder → Prop) (registry : Registry) : Prop :=
  ∀ word builder, registry.builders.get? word = some builder → property word builder

section Builders

variable {property : String → Builder → Prop} {registry : Registry}

theorem every_empty : empty.Every property := fun _ _ found => by cases found

theorem Every.register (every : registry.Every property) {word : String} {builder : Builder}
    (holds : property word builder) : (registry.register word builder).Every property := by
  intro name other found
  rw [Registry.register, Table.get?_insert] at found
  by_cases same : word = name
  · rw [if_pos same] at found
    cases found
    exact same ▸ holds
  · rw [if_neg same] at found
    exact every name other found

theorem Every.addAlias (every : registry.Every property) (name target : String) :
    (registry.addAlias name target).1.Every property := by
  rcases registry.addAlias_cases name target with same | ⟨word, -, -, moved⟩
  · rw [same]
    exact every
  · rw [moved]
    intro other builder found
    rw [redirect, Table.get?_erase] at found
    by_cases same : name = other
    · rw [if_pos same] at found
      cases found
    · rw [if_neg same] at found
      exact every other builder found

theorem Every.aliasAll (every : registry.Every property) (target : String)
    (names : List String) : (registry.aliasAll target names).Every property := by
  induction names generalizing registry with
  | nil => exact every
  | cons name rest inductionHypothesis => exact inductionHypothesis (every.addAlias name target)

theorem Every.perform (every : registry.Every property) (operation : Operation)
    (holds : ∀ entry ∈ operation.entry?, property entry.1 entry.2) :
    (registry.perform operation).Every property := by
  cases operation with
  | register word builder => exact every.register (holds (word, builder) rfl)
  | registerPlain word build => exact every.register (holds (word, .plain build) rfl)
  | registerTransformer word change => exact every.register (holds (word, .transformer change) rfl)
  | addAlias name target => exact every.addAlias name target
  | aliasAll target names => exact every.aliasAll target names

/-- A registry holds no other builders than those that were registered. -/
theorem Every.run (every : registry.Every property) (operations : List Operation)
    (holds : ∀ operation ∈ operations, ∀ entry ∈ operation.entry?,
      property entry.1 entry.2) :
    (registry.run operations).Every property := by
  induction operations generalizing registry with
  | nil => exact every
  | cons operation rest inductionHypothesis =>
      rcases List.forall_mem_cons.mp holds with ⟨first, later⟩
      exact inductionHypothesis (every.perform operation first) later

/-- What holds of every built-in word and its builder holds of every word of the built-in
registry. -/
theorem every_builtin
    (holds : ∀ entry ∈ Words.fields ++ Words.dates ++ Words.decorations,
      property entry.1 entry.2.1) :
    builtin.Every property := by
  rw [builtin_eq_run]
  refine every_empty.run _ fun operation member added registered => ?_
  rcases List.mem_flatMap.mp member with ⟨entry, listed, either⟩
  simp only [List.mem_cons, List.not_mem_nil, or_false] at either
  rcases either with rfl | rfl
  · cases registered
    exact holds entry listed
  · cases registered

end Builders
end Registry
end LogLayout.Pattern
