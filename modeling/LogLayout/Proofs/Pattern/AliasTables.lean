import LogLayout.Proofs.Chains
import LogLayout.Proofs.Pattern.Resolving

namespace LogLayout.Pattern

/-!
# Tables of aliases

Several aliases are often made at once, from a table that gives each of them its target.  A
target may itself be a key of the table, so that its builder is lost to another entry, and
a key may have aliases of its own.  It does not matter: whatever the order in which the
entries are taken, the registry that comes out is the same.

Two names stand for the same word if the registry has one word for both of them.  Making an
alias lets its name and its target stand for the same word, and later entries keep that.
So in the end every name stands for the word that one finds by following the table.
-/

/-- The operation that makes the key of an entry an alias of its value. -/
def Operation.ofEntry (entry : String × String) : Operation := .addAlias entry.1 entry.2

namespace Registry

variable {registry : Registry}

/-- A registry with the entries of a list made aliases, one after the other. -/
def withAliases (registry : Registry) (entries : List (String × String)) : Registry :=
  registry.run (entries.map .ofEntry)

theorem withAliases_cons (registry : Registry) (entry : String × String)
    (rest : List (String × String)) :
    registry.withAliases (entry :: rest) =
      (registry.addAlias entry.1 entry.2).1.withAliases rest := rfl

theorem withAliases_append (registry : Registry) (before behind : List (String × String)) :
    registry.withAliases (before ++ behind) = (registry.withAliases before).withAliases behind := by
  rw [withAliases, List.map_append, run_append]
  rfl

theorem WellFormed.withAliases (wellFormed : registry.WellFormed)
    (entries : List (String × String)) :
    (registry.withAliases entries).WellFormed ∧
      registry.KnownTo (registry.withAliases entries) := wellFormed.run _

/-! ## The word that a name stands for -/

theorem addAlias_accepted (registry : Registry) (name target : String) :
    (registry.addAlias name target).2 = registry.contains target := by
  rw [addAlias_eq]
  cases registry.contains target <;> rfl

theorem canonical_of_alias {name word : String}
    (pointing : registry.aliases.get? name = some word) : registry.canonical name = word := by
  rw [canonical, pointing, Option.getD_some]

theorem canonical_of_not_alias {name : String} (apart : registry.aliases.get? name = none) :
    registry.canonical name = name := by
  rw [canonical, apart, Option.getD_none]

theorem WellFormed.canonical_canonical (wellFormed : registry.WellFormed) (name : String) :
    registry.canonical (registry.canonical name) = registry.canonical name := by
  cases pointing : registry.aliases.get? name with
  | none => rw [canonical_of_not_alias pointing, canonical_of_not_alias pointing]
  | some word =>
      rw [canonical_of_alias pointing]
      exact canonical_of_not_alias (wellFormed.apart word (wellFormed.direct name word pointing))

/-- Once a name has become an alias of another word, it and all that stood for it stand for
that word. -/
theorem canonical_redirect (registry : Registry) (name word other : String) :
    (registry.redirect name word).canonical other =
      if other = name ∨ registry.canonical other = name then word
      else registry.canonical other := by
  rw [canonical, redirect, Table.get?_insert, Table.get?_map]
  by_cases same : name = other
  · rw [if_pos same, if_pos (.inl same.symm), Option.getD_some]
  · rw [if_neg same]
    cases pointing : registry.aliases.get? other with
    | none =>
        rw [Option.map_none, Option.getD_none, canonical_of_not_alias pointing]
        simp only [Ne.symm same, or_self, if_false]
    | some old =>
        rw [Option.map_some, Option.getD_some, canonical_of_alias pointing]
        simp only [Ne.symm same, false_or]

/-- An alias of an unknown target changes nothing.  Else the alias, and all that stood for
it, stand for the word of the target. -/
theorem WellFormed.canonical_addAlias (wellFormed : registry.WellFormed)
    (name target other : String) :
    (registry.addAlias name target).1.canonical other =
      if registry.contains target = true ∧ (other = name ∨ registry.canonical other = name) then
        registry.canonical target
      else registry.canonical other := by
  rw [addAlias_eq]
  by_cases known : registry.contains target = true
  · rw [if_pos known]
    dsimp only
    by_cases same : name = registry.canonical target
    · rw [if_pos same]
      split
      next stands =>
        rcases stands.2 with rfl | stands
        · exact congrArg registry.canonical same |>.trans (wellFormed.canonical_canonical target)
        · rw [stands, same]
      next => rfl
    · rw [if_neg same, canonical_redirect]
      simp only [known, true_and]
  · rw [if_neg known, if_neg fun both => known both.1]

theorem WellFormed.contains_addAlias_iff (wellFormed : registry.WellFormed)
    (name target other : String) :
    (registry.addAlias name target).1.contains other = true ↔
      registry.contains other = true ∨ other = name ∧ registry.contains target = true := by
  by_cases known : registry.contains target = true
  · simp only [known, and_true]
    rw [contains, wellFormed.resolve?_addAlias known]
    split
    next mine =>
      refine iff_of_true known ?_
      rcases mine with same | isAlias
      · exact .inr same
      · refine .inl ((wellFormed.contains_iff other).mpr (.inr ?_))
        rw [Table.contains, mem_aliasesOf_iff.mp isAlias, Option.isSome_some]
    next others =>
      exact ⟨.inl, fun either => either.resolve_right fun same => others (.inl same)⟩
  · rw [addAlias_eq, if_neg known]
    simp only [known, Bool.false_eq_true, and_false, or_false]

theorem WellFormed.canonical_addAlias_word (wellFormed : registry.WellFormed) {word : String}
    (alone : registry.canonical word = word) {name : String} (apart : name ≠ word)
    (target : String) : (registry.addAlias name target).1.canonical word = word := by
  rw [wellFormed.canonical_addAlias, if_neg, alone]
  rintro ⟨-, same | same⟩
  · exact apart same.symm
  · exact apart (same.symm.trans alone)

/-- A word that no entry makes an alias stays a word. -/
theorem WellFormed.canonical_withAliases_word (wellFormed : registry.WellFormed)
    {word : String} (alone : registry.canonical word = word) {entries : List (String × String)}
    (apart : ∀ entry ∈ entries, entry.1 ≠ word) :
    (registry.withAliases entries).canonical word = word := by
  induction entries generalizing registry with
  | nil => exact alone
  | cons entry rest inductionHypothesis =>
      rcases List.forall_mem_cons.mp apart with ⟨first, later⟩
      exact inductionHypothesis (wellFormed.addAlias entry.1 entry.2)
        (wellFormed.canonical_addAlias_word alone first entry.2) later

/-- A name whose word is no key of the entries stands for that word still, and resolves to
the builder that it resolved to. -/
theorem WellFormed.resolve?_withAliases (wellFormed : registry.WellFormed) {name : String}
    {entries : List (String × String)} (apart : ∀ entry ∈ entries, entry.1 ≠ name)
    (wordApart : ∀ entry ∈ entries, entry.1 ≠ registry.canonical name) :
    (registry.withAliases entries).canonical name = registry.canonical name ∧
      (registry.withAliases entries).resolve? name = registry.resolve? name := by
  induction entries generalizing registry with
  | nil => exact ⟨rfl, rfl⟩
  | cons entry rest inductionHypothesis =>
      rcases List.forall_mem_cons.mp apart with ⟨first, later⟩
      rcases List.forall_mem_cons.mp wordApart with ⟨wordFirst, wordLater⟩
      have word :
          (registry.addAlias entry.1 entry.2).1.canonical name = registry.canonical name := by
        rw [wellFormed.canonical_addAlias, if_neg]
        rintro ⟨-, same | same⟩
        · exact first same.symm
        · exact wordFirst same.symm
      have resolved :
          (registry.addAlias entry.1 entry.2).1.resolve? name = registry.resolve? name := by
        by_cases known : registry.contains entry.2 = true
        · rw [wellFormed.resolve?_addAlias known, if_neg]
          rintro (same | isAlias)
          · exact first same.symm
          · exact wordFirst (canonical_of_alias (mem_aliasesOf_iff.mp isAlias)).symm
        · rw [addAlias_eq, if_neg known]
      rw [withAliases_cons]
      rcases inductionHypothesis (wellFormed.addAlias entry.1 entry.2) later
        (word.symm ▸ wordLater) with ⟨lastWord, lastResolved⟩
      exact ⟨lastWord.trans word, lastResolved.trans resolved⟩

/-! ## Names that stand for the same word -/

/-- Two names stand for the same word. -/
def SameWord (registry : Registry) (name other : String) : Prop :=
  registry.canonical name = registry.canonical other

theorem SameWord.resolve?_eq {name other : String} (same : registry.SameWord name other) :
    registry.resolve? name = registry.resolve? other := congrArg registry.builders.get? same

theorem WellFormed.sameWord_addAlias (wellFormed : registry.WellFormed) {target : String}
    (known : registry.contains target = true) (name : String) :
    (registry.addAlias name target).1.SameWord name target := by
  rw [SameWord, wellFormed.canonical_addAlias, wellFormed.canonical_addAlias,
    if_pos ⟨known, .inl rfl⟩, ite_self]

/-- Two names go on standing for the same word when another name becomes an alias.  That
may be the second of them, if it is a word, since its aliases follow it. -/
theorem WellFormed.sameWord_kept (wellFormed : registry.WellFormed) {first second : String}
    (same : registry.SameWord first second) {name : String} (apart : name ≠ first)
    (word : name = second → registry.canonical second = second) (target : String) :
    (registry.addAlias name target).1.SameWord first second := by
  rw [SameWord, wellFormed.canonical_addAlias, wellFormed.canonical_addAlias, same]
  by_cases moved : registry.canonical second = name
  · simp only [moved, or_true, and_true]
  · have others : second ≠ name := fun equal => moved ((word equal.symm).trans equal)
    simp only [moved, Ne.symm apart, others, or_self, and_false, if_false]

/-- Two names go on standing for the same word through entries that have other keys, or the
second of them once if it is a word. -/
theorem WellFormed.sameWord_withAliases (wellFormed : registry.WellFormed)
    {first second : String} (same : registry.SameWord first second)
    {entries : List (String × String)} (distinct : (entries.map Prod.fst).Nodup)
    (apart : ∀ entry ∈ entries, entry.1 ≠ first)
    (word : ∀ entry ∈ entries, entry.1 = second → registry.canonical second = second) :
    (registry.withAliases entries).SameWord first second := by
  induction entries generalizing registry with
  | nil => exact same
  | cons entry rest inductionHypothesis =>
      rcases List.nodup_cons.mp distinct with ⟨once, restDistinct⟩
      rcases List.forall_mem_cons.mp apart with ⟨firstApart, restApart⟩
      rcases List.forall_mem_cons.mp word with ⟨firstWord, restWord⟩
      rw [withAliases_cons]
      refine inductionHypothesis (wellFormed.addAlias entry.1 entry.2)
        (wellFormed.sameWord_kept same firstApart firstWord entry.2) restDistinct restApart ?_
      intro other member key
      have different : entry.1 ≠ second := fun equal =>
        once (List.mem_map.mpr ⟨other, member, key.trans equal.symm⟩)
      exact wellFormed.canonical_addAlias_word (restWord other member key) different entry.2

/-- A registry is known by its words and its builders: those that have the same word and the
same builder for every name are equal. -/
theorem WellFormed.ext_canonical {other : Registry} (wellFormed : registry.WellFormed)
    (otherWellFormed : other.WellFormed)
    (words : ∀ name, registry.canonical name = other.canonical name)
    (resolved : ∀ name, registry.resolve? name = other.resolve? name) : registry = other := by
  have builders {registry : Registry} (wellFormed : registry.WellFormed) (name : String) :
      registry.builders.get? name =
        if registry.canonical name = name then registry.resolve? name else none := by
    split
    next alone => rw [resolve?, alone]
    next moved =>
      by_contra found
      have isWord : registry.builders.contains name = true := by
        rw [Table.contains, Option.isSome_iff_ne_none]
        exact found
      exact moved (canonical_of_not_alias (wellFormed.apart name isWord))
  have aliases {registry : Registry} (wellFormed : registry.WellFormed) (name : String) :
      registry.aliases.get? name =
        if registry.canonical name = name then none else some (registry.canonical name) := by
    cases pointing : registry.aliases.get? name with
    | none => rw [if_pos (canonical_of_not_alias pointing)]
    | some word =>
        rw [canonical_of_alias pointing, if_neg]
        rintro rfl
        have apart := wellFormed.apart word (wellFormed.direct word word pointing)
        rw [pointing] at apart
        cases apart
  have sameBuilders : registry.builders = other.builders := Table.ext_get? fun name => by
    rw [builders wellFormed, builders otherWellFormed, words, resolved]
  have sameAliases : registry.aliases = other.aliases := Table.ext_get? fun name => by
    rw [aliases wellFormed, aliases otherWellFormed, words]
  cases registry
  cases other
  exact (mk.injEq ..).mpr ⟨sameBuilders, sameAliases⟩

/-! ## Tables without cycles -/

section Tables

variable {table : Table String} {order : List (String × String)}

theorem nodup_keys_of_perm (perm : order.Perm table.entries) : (order.map Prod.fst).Nodup :=
  (perm.map Prod.fst).nodup_iff.mpr table.nodup_keys

/-- When the entries of a table whose targets are words have been made aliases, every key stands for
the same word as its target.  A target that is the key of a later entry is a word up to its turn. -/
theorem WellFormed.sameWord_of_links (wellFormed : registry.WellFormed)
    (targets : ∀ entry ∈ table.entries, entry.2 ∈ registry.words)
    (perm : order.Perm table.entries) {name target : String} (links : table.Links name target) :
    (registry.withAliases order).SameWord name target := by
  have listed := (table.mem_entries_iff name target).mpr links
  have isWord := (registry.builders.mem_keys_iff target).mp (targets _ listed)
  have alone := canonical_of_not_alias (wellFormed.apart target isWord)
  have known := (wellFormed.contains_iff target).mpr (.inl isWord)
  obtain ⟨before, behind, rfl⟩ := List.append_of_mem (perm.mem_iff.mpr listed)
  have distinct := nodup_keys_of_perm perm
  rw [List.map_append, List.map_cons, List.nodup_append, List.nodup_cons] at distinct
  obtain ⟨-, ⟨once, behindDistinct⟩, apart⟩ := distinct
  obtain ⟨beforeWellFormed, kept⟩ := wellFormed.withAliases before
  rw [withAliases_append, withAliases_cons]
  refine (beforeWellFormed.addAlias name target).sameWord_withAliases
    (beforeWellFormed.sameWord_addAlias (kept target known) name) behindDistinct
    (fun entry member same => once (List.mem_map.mpr ⟨entry, member, same⟩)) ?_
  intro entry member same
  have elsewhere {other : String} (isKey : other ∈ before.map Prod.fst ∨ other = name) :
      other ≠ target := by
    rintro rfl
    have later := List.mem_map.mpr ⟨entry, member, same⟩
    rcases isKey with earlier | rfl
    · exact apart _ earlier _ (List.mem_cons_of_mem _ later) rfl
    · exact once later
  refine beforeWellFormed.canonical_addAlias_word ?_ (elsewhere (.inr rfl)) target
  exact wellFormed.canonical_withAliases_word alone fun other member =>
    elsewhere (.inl (List.mem_map_of_mem member))

theorem WellFormed.resolve?_of_not_key (wellFormed : registry.WellFormed)
    (perm : order.Perm table.entries) {name : String} (free : table.get? name = none)
    (wordFree : table.get? (registry.canonical name) = none) :
    (registry.withAliases order).canonical name = registry.canonical name ∧
      (registry.withAliases order).resolve? name = registry.resolve? name := by
  have apart {other : String} (free : table.get? other = none) (entry : String × String)
      (member : entry ∈ order) : entry.1 ≠ other := by
    rintro rfl
    have found := (table.mem_entries_iff entry.1 entry.2).mp (perm.mem_iff.mp member)
    rw [free] at found
    cases found
  exact wellFormed.resolve?_withAliases (apart free) (apart wordFree)

/-- Where following a table from a name starts: at the name if it is a key, and else at the
word that it stands for. -/
def startIn (registry : Registry) (table : Table String) (name : String) : String :=
  if table.contains name then name else registry.canonical name

theorem WellFormed.follows_table (wellFormed : registry.WellFormed)
    (targets : ∀ entry ∈ table.entries, entry.2 ∈ registry.words)
    (perm : order.Perm table.entries) {name last : String}
    (ends : EndsAt table.Links (registry.startIn table name) last) :
    (registry.withAliases order).canonical name = last ∧
      (registry.withAliases order).resolve? name = registry.resolve? last := by
  have alone {place : String}
      (leads : Relation.ReflTransGen table.Links (registry.startIn table name) place)
      (free : table.get? place = none) : registry.canonical place = place := by
    rcases Relation.ReflTransGen.cases_tail leads with same | ⟨key, -, links⟩
    · rw [same, startIn]
      split
      next isKey =>
        rw [startIn, if_pos isKey] at same
        rw [Table.contains, ← same, free] at isKey
        cases isKey
      next => exact wellFormed.canonical_canonical name
    · have listed := (table.mem_entries_iff key place).mpr links
      exact canonical_of_not_alias (wellFormed.apart place
        ((registry.builders.mem_keys_iff place).mp (targets _ listed)))
  have free : table.get? last = none := by
    cases found : table.get? last with
    | none => rfl
    | some next => exact absurd found (ends.final next)
  have lastAlone := alone ends.leads free
  obtain ⟨lastWord, lastResolved⟩ :=
    wellFormed.resolve?_of_not_key perm free (lastAlone.symm ▸ free)
  have along {first : String} (leads : Relation.ReflTransGen table.Links first last) :
      (registry.withAliases order).SameWord first last := by
    induction leads using Relation.ReflTransGen.head_induction_on with
    | refl => rfl
    | head links _ inductionHypothesis =>
        exact (wellFormed.sameWord_of_links targets perm links).trans inductionHypothesis
  have start : (registry.withAliases order).SameWord name (registry.startIn table name) := by
    rw [startIn]
    split
    next => rfl
    next notKey =>
      refine wellFormed.sameWord_withAliases (wellFormed.canonical_canonical name).symm
        (nodup_keys_of_perm perm) (fun entry member same => notKey ?_)
        (fun _ _ _ => wellFormed.canonical_canonical name)
      rw [← same, ← table.mem_keys_iff]
      exact List.mem_map_of_mem (perm.mem_iff.mp member)
  have stands : (registry.withAliases order).SameWord name last := start.trans (along ends.leads)
  exact ⟨Eq.trans stands (lastWord.trans lastAlone), stands.resolve?_eq.trans lastResolved⟩

theorem mem_words_of_leads (targets : ∀ entry ∈ table.entries, entry.2 ∈ registry.words)
    {first last : String} (isWord : first ∈ registry.words)
    (leads : Relation.ReflTransGen table.Links first last) : last ∈ registry.words := by
  rcases Relation.ReflTransGen.cases_tail leads with rfl | ⟨key, -, links⟩
  · exact isWord
  · exact targets _ ((table.mem_entries_iff key last).mpr links)

end Tables

/-- Whatever was done to the empty or to the built-in registry before, the entries of a table
whose targets are words and which has no cycle can be made aliases in any order.  Each of
them is accepted, and the registry that comes out does not depend on the order.  In it every
key of the table, and every alias from before that is no key, resolves to the builder of the
word that one comes to by following the table from its target until a word that is no key.
All other names resolve as before. -/
theorem withAliases_perm (start : Registry) (initial : start = empty ∨ start = builtin)
    (operations : List Operation) (table : Table String)
    (targets : ∀ entry ∈ table.entries, entry.2 ∈ (start.run operations).words)
    (acyclic : Acyclic table.Links) (order : List (String × String))
    (perm : order.Perm table.entries) :
    let registry := start.run operations
    let final := registry.withAliases order
    (∀ before entry behind, order = before ++ entry :: behind →
      ((registry.withAliases before).addAlias entry.1 entry.2).2 = true) ∧
    (∀ other : List (String × String), other.Perm table.entries →
      registry.withAliases other = final) ∧
    (∀ name target, table.get? name = some target ∨
        (table.get? name = none ∧ registry.aliases.get? name = some target) →
      ∃ last builder, EndsAt table.Links target last ∧
        registry.builders.get? last = some builder ∧ final.resolve? name = some builder) ∧
    (∀ name, table.get? name = none → registry.aliases.get? name = none →
      final.resolve? name = registry.resolve? name) := by
  intro registry final
  have startWellFormed : start.WellFormed := by
    rcases initial with rfl | rfl
    · exact wellFormed_empty
    · exact wellFormed_builtin
  have wellFormed : registry.WellFormed := (startWellFormed.run operations).1
  refine ⟨fun before entry behind split => ?_, fun other otherPerm => ?_,
    fun name target follows => ?_, fun name free notAlias => ?_⟩
  · have listed : entry ∈ table.entries :=
      perm.mem_iff.mp (split ▸ List.mem_append_right _ List.mem_cons_self)
    have isWord := (registry.builders.mem_keys_iff entry.2).mp (targets entry listed)
    rw [addAlias_accepted]
    exact (wellFormed.withAliases before).2 _ ((wellFormed.contains_iff _).mpr (.inl isWord))
  · refine (wellFormed.withAliases other).1.ext_canonical (wellFormed.withAliases order).1
      (fun name => ?_) (fun name => ?_)
    all_goals
      obtain ⟨last, ends⟩ := Table.exists_endsAt acyclic (registry.startIn table name)
      have here := wellFormed.follows_table targets perm ends
      have there := wellFormed.follows_table targets otherPerm ends
    · exact there.1.trans here.1.symm
    · exact there.2.trans here.2.symm
  · obtain ⟨last, ends⟩ := Table.exists_endsAt acyclic target
    have starts : EndsAt table.Links (registry.startIn table name) last ∧
        target ∈ registry.words := by
      rcases follows with links | ⟨free, pointing⟩
      · rw [startIn, Table.contains, links]
        exact ⟨ends.head links, targets _ ((table.mem_entries_iff name target).mpr links)⟩
      · rw [startIn, Table.contains, free, canonical_of_alias pointing]
        exact ⟨ends, (registry.builders.mem_keys_iff target).mpr
          (wellFormed.direct name target pointing)⟩
    have isWord := (registry.builders.mem_keys_iff last).mp
      (mem_words_of_leads targets starts.2 ends.leads)
    obtain ⟨builder, found⟩ := Option.isSome_iff_exists.mp isWord
    refine ⟨last, builder, ends, found, ?_⟩
    rw [(wellFormed.follows_table targets perm starts.1).2,
      resolve?_of_not_alias (wellFormed.apart last isWord), found]
  · exact (wellFormed.resolve?_of_not_key perm free
      ((canonical_of_not_alias notAlias).symm ▸ free)).2

/-- A key whose target is a key itself, in both orders.  The target loses its builder, and the
aliases of the target come along. -/
theorem withAliases_perm_chain :
    let registry := builtin.run [.addAlias "severity" "level"]
    let table := Table.ofList [("level", "thread"), ("message", "level")]
    let final := registry.withAliases [("message", "level"), ("level", "thread")]
    registry.withAliases [("level", "thread"), ("message", "level")] = final ∧
      EndsAt table.Links "message" "thread" ∧
      final.resolve? "message" = registry.builders.get? "thread" ∧
      final.resolve? "severity" = registry.builders.get? "thread" := by
  intro registry table final
  have entries : table.entries = [("level", "thread"), ("message", "level")] := by decide +kernel
  have targets : ∀ entry ∈ table.entries, entry.2 ∈ registry.words := by decide +kernel
  let rank (name : String) : Nat := ["thread", "level", "message"].idxOf name
  have falls : ∀ entry ∈ table.entries, rank entry.2 < rank entry.1 := by decide +kernel
  have first : table.get? "message" = some "level" := by decide +kernel
  have second : table.get? "level" = some "thread" := by decide +kernel
  have last : table.get? "thread" = none := by decide +kernel
  have ends : EndsAt table.Links "level" "thread" :=
    ⟨.single second, Table.not_links_of_free last⟩
  have perm : [("message", "level"), ("level", "thread")].Perm table.entries :=
    entries ▸ .swap ..
  obtain ⟨-, confluent, follows, -⟩ :=
    withAliases_perm builtin (.inr rfl) [.addAlias "severity" "level"] table targets
      (Table.acyclic_of_falls rank falls) _ perm
  refine ⟨confluent _ (entries ▸ .refl _), ends.head first, ?_, ?_⟩
  · obtain ⟨word, builder, wordEnds, found, resolved⟩ := follows "message" "level" (.inl first)
    cases wordEnds.unique table.links_functional ends
    exact resolved.trans found.symm
  · have free : table.get? "severity" = none := by decide +kernel
    have pointing : registry.aliases.get? "severity" = some "level" := by decide +kernel
    obtain ⟨word, builder, wordEnds, found, resolved⟩ :=
      follows "severity" "level" (.inr ⟨free, pointing⟩)
    cases wordEnds.unique table.links_functional ends
    exact resolved.trans found.symm

end Registry
end LogLayout.Pattern
