import LogLayout.Proofs.Pattern.Naming

namespace LogLayout.Pattern

/-!
# What names resolve to

A registry keeps builders under words and words under aliases, but whoever looks up a
name sees one table: the builder that each name resolves to.  This module says what every
operation does to that one table, and which names it leaves alone.

An alias is stored with the word that it points at, and not with the name that it was
made from.  It nevertheless behaves like a link.  Registering the word again changes what
the alias resolves to, and if the word becomes an alias itself, its own aliases follow it.
The link lasts until the alias or its word is given another meaning.
-/

namespace Registry

variable {registry : Registry}

/-! ## Looking up -/

theorem resolve?_of_alias {name word : String}
    (pointing : registry.aliases.get? name = some word) :
    registry.resolve? name = registry.builders.get? word := by
  rw [resolve?, canonical, pointing, Option.getD_some]

theorem resolve?_of_not_alias {name : String} (apart : registry.aliases.get? name = none) :
    registry.resolve? name = registry.builders.get? name := by
  rw [resolve?, canonical, apart, Option.getD_none]

/-- The word that a known name stands for is no alias, so that it resolves to the builder
of the name. -/
theorem WellFormed.resolve?_canonical (wellFormed : registry.WellFormed) {name : String}
    (known : registry.contains name = true) :
    registry.resolve? (registry.canonical name) = registry.resolve? name :=
  resolve?_of_not_alias (wellFormed.apart _ known)

/-! ## Registering a word -/

/-- Once a word is registered, it and its aliases resolve to the new builder, and every
other name resolves as before. -/
theorem resolve?_register (registry : Registry) (word : String) (builder : Builder)
    (name : String) :
    (registry.register word builder).resolve? name =
      if name = word ∨ name ∈ registry.aliasesOf word then some builder
      else registry.resolve? name := by
  simp only [mem_aliasesOf_iff]
  have erased := Table.get?_erase registry.aliases word name
  by_cases same : name = word
  · subst same
    rw [if_pos rfl] at erased
    rw [if_pos (.inl rfl), resolve?_of_not_alias erased, register, Table.get?_insert, if_pos rfl]
  · rw [if_neg (Ne.symm same)] at erased
    cases pointing : registry.aliases.get? name with
    | none =>
        rw [pointing] at erased
        rw [if_neg (by simp only [same, reduceCtorEq, or_self, not_false_eq_true]),
          resolve?_of_not_alias erased, resolve?_of_not_alias pointing, register, Table.get?_insert,
          if_neg (Ne.symm same)]
    | some other =>
        rw [pointing] at erased
        rw [resolve?_of_alias erased, resolve?_of_alias pointing, register, Table.get?_insert]
        simp only [same, Option.some.injEq, false_or, eq_comm]

/-! ## Making an alias -/

/-- An alias is made of a known name, and then nothing changes if the name is the word
already. -/
theorem addAlias_eq (registry : Registry) (name target : String) :
    registry.addAlias name target =
      if registry.contains target then
        (if name = registry.canonical target then registry
          else registry.redirect name (registry.canonical target), true)
      else (registry, false) := by
  have words : registry.builders.contains (registry.canonical target) =
    registry.contains target := rfl
  unfold addAlias
  dsimp only
  rw [words]
  split
  next => split <;> rfl
  next => rfl

/-- Once a name has become an alias of another word, it and the aliases that it had resolve
to the builder of that word, and every other name resolves as before. -/
theorem resolve?_redirect (registry : Registry) {name word : String} (different : name ≠ word)
    (other : String) :
    (registry.redirect name word).resolve? other =
      if other = name ∨ other ∈ registry.aliasesOf name then registry.builders.get? word
      else registry.resolve? other := by
  simp only [mem_aliasesOf_iff]
  have kept (found : String) (apart : name ≠ found) :
      (registry.builders.erase name).get? found = registry.builders.get? found := by
    rw [Table.get?_erase, if_neg apart]
  have moved : (registry.redirect name word).aliases.get? other =
      if name = other then some word
      else (registry.aliases.get? other).map fun old => if old = name then word else old := by
    rw [redirect, Table.get?_insert, Table.get?_map]
  by_cases same : name = other
  · rw [if_pos same] at moved
    rw [if_pos (.inl same.symm), resolve?_of_alias moved]
    exact kept word different
  · rw [if_neg same] at moved
    cases pointing : registry.aliases.get? other with
    | none =>
        rw [pointing] at moved
        rw [if_neg (by simp only [Ne.symm same, reduceCtorEq, or_self, not_false_eq_true]),
          resolve?_of_not_alias moved, resolve?_of_not_alias pointing]
        exact kept other same
    | some old =>
        rw [pointing, Option.map_some] at moved
        rw [resolve?_of_alias moved]
        by_cases follows : old = name
        · rw [if_pos follows, if_pos (.inr (congrArg some follows))]
          exact kept word different
        · rw [if_neg follows, if_neg (by
            simp only [Ne.symm same, Option.some.injEq, follows, or_self, not_false_eq_true]),
            resolve?_of_alias pointing]
          exact kept old (Ne.symm follows)

/-- Once an alias has been made, it and the aliases that it had resolve to what the target
resolved to, and every other name resolves as before. -/
theorem WellFormed.resolve?_addAlias (wellFormed : registry.WellFormed) {name target : String}
    (known : registry.contains target = true) (other : String) :
    (registry.addAlias name target).1.resolve? other =
      if other = name ∨ other ∈ registry.aliasesOf name then registry.resolve? target
      else registry.resolve? other := by
  rw [addAlias_eq, if_pos known]
  dsimp only
  by_cases same : name = registry.canonical target
  · rw [if_pos same]
    by_cases mine : other = name ∨ other ∈ registry.aliasesOf name
    · rw [if_pos mine, ← wellFormed.resolve?_canonical known, ← same]
      rcases mine with rfl | isAlias
      · rfl
      · rw [resolve?_of_alias (mem_aliasesOf_iff.mp isAlias), same]
        exact (resolve?_of_not_alias (wellFormed.apart _ known)).symm
    · rw [if_neg mine]
  · rw [if_neg same, resolve?_redirect registry same]
    rfl

end Registry

/-! ## How long an alias lasts -/

def Operation.registered? : Operation → Option String
  | .register word _ => some word
  | .registerPlain word _ => some word
  | .registerTransformer word _ => some word
  | .addAlias .. => none
  | .aliasAll .. => none

def Operation.aliased : Operation → List String
  | .register .. => []
  | .registerPlain .. => []
  | .registerTransformer .. => []
  | .addAlias name _ => [name]
  | .aliasAll _ names => names

/-- An operation gives no other meaning to an alias, and does not make its word an alias. -/
structure Operation.Spares (operation : Operation) (name word : String) : Prop where
  notRegistered : operation.registered? ≠ some name
  notAliased : name ∉ operation.aliased
  wordNotAliased : word ∉ operation.aliased

namespace Registry

variable {registry : Registry} {name word : String}

/-- An alias still points at its word when another word has been registered, which may be
the one that it points at. -/
theorem get?_aliases_register (pointing : registry.aliases.get? name = some word)
    {other : String} (apart : other ≠ name) (builder : Builder) :
    (registry.register other builder).aliases.get? name = some word := by
  rw [register, Table.get?_erase, if_neg apart, pointing]

/-- An alias still points at its word when another name has become an alias. -/
theorem get?_aliases_addAlias (pointing : registry.aliases.get? name = some word)
    {other : String} (apart : other ≠ name) (wordKept : other ≠ word) (target : String) :
    (registry.addAlias other target).1.aliases.get? name = some word := by
  rcases registry.addAlias_cases other target with same | ⟨place, -, -, moved⟩
  · rw [same, pointing]
  · rw [moved, redirect, Table.get?_insert, if_neg apart, Table.get?_map, pointing,
      Option.map_some, if_neg (Ne.symm wordKept)]

theorem get?_aliases_aliasAll (target : String) {others : List String}
    (apart : name ∉ others) (wordKept : word ∉ others)
    (pointing : registry.aliases.get? name = some word) :
    (registry.aliasAll target others).aliases.get? name = some word := by
  induction others generalizing registry with
  | nil => exact pointing
  | cons other rest inductionHypothesis =>
      rw [List.mem_cons, not_or] at apart wordKept
      exact inductionHypothesis apart.2 wordKept.2
        (get?_aliases_addAlias pointing (Ne.symm apart.1) (Ne.symm wordKept.1) target)

/-- An operation that spares an alias leaves it pointing at its word. -/
theorem get?_aliases_perform (pointing : registry.aliases.get? name = some word)
    {operation : Operation} (spares : operation.Spares name word) :
    (registry.perform operation).aliases.get? name = some word := by
  have unregistered (other : String) (registers : operation.registered? = some other) :
      other ≠ name := fun same => spares.notRegistered (same ▸ registers)
  cases operation with
  | register other builder => exact get?_aliases_register pointing (unregistered other rfl) _
  | registerPlain other build => exact get?_aliases_register pointing (unregistered other rfl) _
  | registerTransformer other change =>
      exact get?_aliases_register pointing (unregistered other rfl) _
  | addAlias other target =>
      exact get?_aliases_aliasAll target spares.notAliased spares.wordNotAliased pointing
  | aliasAll target others =>
      exact get?_aliases_aliasAll target spares.notAliased spares.wordNotAliased pointing

/-- Operations in a row that all spare an alias leave it pointing at its word. -/
theorem get?_aliases_run {operations : List Operation}
    (spares : ∀ operation ∈ operations, operation.Spares name word)
    (pointing : registry.aliases.get? name = some word) :
    (registry.run operations).aliases.get? name = some word := by
  induction operations generalizing registry with
  | nil => exact pointing
  | cons operation rest inductionHypothesis =>
      rcases List.forall_mem_cons.mp spares with ⟨first, later⟩
      exact inductionHypothesis later (get?_aliases_perform pointing first)

theorem WellFormed.resolve?_alias (wellFormed : registry.WellFormed)
    (pointing : registry.aliases.get? name = some word) :
    registry.resolve? name = registry.resolve? word := by
  rw [resolve?_of_alias pointing,
    resolve?_of_not_alias (wellFormed.apart word (wellFormed.direct name word pointing))]

/-- From the moment when an alias has been made it resolves to what the word resolves to
that its target stood for, through all operations that spare it. -/
theorem WellFormed.resolve?_run_addAlias (wellFormed : registry.WellFormed)
    {target : String} (known : registry.contains target = true) {later : List Operation}
    (spares : ∀ operation ∈ later, operation.Spares name (registry.canonical target)) :
    ((registry.addAlias name target).1.run later).resolve? name =
      ((registry.addAlias name target).1.run later).resolve? (registry.canonical target) := by
  by_cases same : name = registry.canonical target
  · rw [← same]
  · have last := ((wellFormed.addAlias name target).run later).1
    refine last.resolve?_alias (get?_aliases_run spares ?_)
    rw [addAlias_eq, if_pos known, if_neg same, Registry.redirect, Table.get?_insert, if_pos rfl]

/-! ## The table of resolved names -/

/-- Whatever was done to the empty or to the built-in registry before: once a word is
registered, it and its aliases resolve to the new builder.  An alias is refused exactly if
its target does not resolve, and then nothing changes.  Once it is made, it and the aliases
that it had resolve to what the target resolved to.  In each case every other name resolves
as before.  From then on the alias resolves to a builder, and to the same one as the word
that its target stood for, as long as the alias is not registered as a word and neither of
the two is made an alias. -/
theorem resolve?_after_run (start : Registry) (initial : start = empty ∨ start = builtin)
    (operations : List Operation) :
    let registry := start.run operations
    (∀ word builder name, (registry.register word builder).resolve? name =
      if name = word ∨ name ∈ registry.aliasesOf word then some builder
      else registry.resolve? name) ∧
    (∀ name target, (registry.addAlias name target).2 = false ↔
      registry.resolve? target = none) ∧
    (∀ name target, (registry.addAlias name target).2 = false →
      (registry.addAlias name target).1 = registry) ∧
    (∀ name target, (registry.addAlias name target).2 = true → ∀ other,
      (registry.addAlias name target).1.resolve? other =
        if other = name ∨ other ∈ registry.aliasesOf name then registry.resolve? target
        else registry.resolve? other) ∧
    (∀ name target later, (registry.addAlias name target).2 = true →
      (∀ operation ∈ later, operation.Spares name (registry.canonical target)) →
      let changed := (registry.addAlias name target).1.run later
      ∃ builder, changed.resolve? name = some builder ∧
        changed.resolve? (registry.canonical target) = some builder) := by
  intro registry
  have startWellFormed : start.WellFormed := by
    rcases initial with rfl | rfl
    · exact wellFormed_empty
    · exact wellFormed_builtin
  have wellFormed : registry.WellFormed := (startWellFormed.run operations).1
  have accepted (name target : String) :
      (registry.addAlias name target).2 = registry.contains target := by
    rw [addAlias_eq]
    cases registry.contains target <;> rfl
  refine ⟨registry.resolve?_register, fun name target => ?_, fun name target refused => ?_,
    fun name target made => ?_, fun name target later made spares => ?_⟩
  · rw [accepted, contains, Option.isSome_eq_false_iff, Option.isNone_iff_eq_none]
  · rw [accepted] at refused
    rw [addAlias_eq, if_neg (by simp only [refused, Bool.false_eq_true, not_false_eq_true])]
  · exact wellFormed.resolve?_addAlias ((accepted name target).symm.trans made)
  · intro changed
    have known : registry.contains target = true := (accepted name target).symm.trans made
    have same := wellFormed.resolve?_run_addAlias known spares
    have first : (registry.addAlias name target).1.contains name = true := by
      rw [contains, wellFormed.resolve?_addAlias known, if_pos (.inl rfl)]
      exact known
    have last := ((wellFormed.addAlias name target).run later).2 name first
    rcases Option.isSome_iff_exists.mp last with ⟨builder, found⟩
    exact ⟨builder, found, same.symm.trans found⟩

/-- A word becomes an alias, so that an alias of it follows, and the word that both then
stand for is registered again. -/
theorem resolve?_after_run_followed :
    let registry := builtin.run [.addAlias "text" "m"]
    let redirected := (registry.addAlias "message" "level").1
    "text" ∈ registry.aliasesOf "message" ∧
      redirected.resolve? "text" = registry.resolve? "level" ∧
      ∃ builder, (redirected.run [.register "level" Words.thread]).resolve? "message" =
          some builder ∧
        (redirected.run [.register "level" Words.thread]).resolve? "level" = some builder := by
  intro registry redirected
  have follows : "text" ∈ registry.aliasesOf "message" := by decide +kernel
  have word : registry.canonical "level" = "level" := by decide +kernel
  have made : (registry.addAlias "message" "level").2 = true := by decide +kernel
  have names := resolve?_after_run builtin (.inr rfl) [.addAlias "text" "m"]
  refine ⟨follows, ?_, ?_⟩
  · have resolved := names.2.2.2.1 "message" "level" made "text"
    rwa [if_pos (.inr follows)] at resolved
  · have lasting := names.2.2.2.2 "message" "level" [.register "level" Words.thread] made
      fun operation member => by
        cases List.mem_singleton.mp member
        exact ⟨by decide, by decide, by decide⟩
    rwa [show (builtin.run [.addAlias "text" "m"]).canonical "level" = "level" from word] at lasting

end Registry
end LogLayout.Pattern
