import LogLayout.Config
import LogLayout.Proofs.Pattern.AliasTables

namespace LogLayout.Config

open Pattern Pattern.Registry

/-!
# Aliases of the settings

The settings name further words, each with the word that it stands for, which may be another
one of them.  The entries are taken in rising order of their keys, and an entry whose target
is not known is left out.  An entry is *grounded* if its target is a built-in name or the key
of a grounded entry.  Only grounded entries can ever be taken; the others change nothing, so
that a built-in name keeps its meaning where such an entry would give it another one.

A grounded entry is taken, and resolves to what following the grounded entries ends at, as
long as no key on the way stands behind the key that leads to it.  Built-in words may: their
aliases follow them when they become aliases themselves.
-/

/-- The entry of a key leads, through any number of entries, to a built-in name. -/
inductive Grounded (table : Table String) : String → Prop
  | known {key target : String} (links : table.Links key target)
    (builtin : builtin.contains target = true) : Grounded table key
  | chain {key target : String} (links : table.Links key target)
    (grounded : Grounded table target) : Grounded table key

/-- A grounded entry leads from its key to its target. -/
def GroundedLinks (table : Table String) (name next : String) : Prop :=
  table.Links name next ∧ Grounded table name

/-- On the way from a key along grounded entries, every key stands in front of the one that
leads to it, or is a built-in word. -/
def InOrder (table : Table String) (key : String) : Prop :=
  ∀ first next, Relation.ReflTransGen (GroundedLinks table) key first →
    GroundedLinks table first next → Grounded table next → next < first ∨ next ∈ builtin.words

variable {table : Table String}

/-! ## Grounded entries -/

theorem Grounded.exists_links {key : String} (grounded : Grounded table key) :
    ∃ target, table.Links key target := by
  cases grounded with
  | known links => exact ⟨_, links⟩
  | chain links => exact ⟨_, links⟩

/-- The target of a grounded entry is a built-in name or the key of a grounded entry. -/
theorem Grounded.target {key target : String} (grounded : Grounded table key)
    (links : table.Links key target) :
    builtin.contains target = true ∨ Grounded table target := by
  cases grounded with
  | known other builtin => exact .inl (table.links_functional other links ▸ builtin)
  | chain other grounded => exact .inr (table.links_functional other links ▸ grounded)

theorem groundedLinks_functional (table : Table String) :
    Relator.RightUnique (GroundedLinks table) :=
  fun _ _ _ first second => table.links_functional first.1 second.1

/-- Following grounded entries from the target of one of them ends at a built-in name. -/
theorem Grounded.builtin_of_endsAt {key target last : String} (grounded : Grounded table key)
    (links : table.Links key target) (ends : EndsAt (GroundedLinks table) target last) :
    builtin.contains last = true := by
  have apart : ¬Grounded table last := fun further =>
    further.exists_links.elim fun next links => ends.final next ⟨links, further⟩
  have leads := Relation.ReflTransGen.head ⟨links, grounded⟩ ends.leads
  rcases Relation.ReflTransGen.cases_tail leads with rfl | ⟨before, -, linksLast, groundedBefore⟩
  · exact absurd grounded apart
  · exact (groundedBefore.target linksLast).resolve_right apart

/-- Entries that lead in front or to built-in words are in order, whatever they follow. -/
theorem inOrder_of_entries
    (rising : ∀ entry ∈ table.entries, table.contains entry.2 = true →
      entry.2 < entry.1 ∨ entry.2 ∈ builtin.words) (key : String) : InOrder table key := by
  intro first next _ links further
  obtain ⟨target, onward⟩ := further.exists_links
  refine rising (first, next) ((table.mem_entries_iff first next).mpr links.1) ?_
  rw [Table.contains, show table.get? next = some target from onward, Option.isSome_some]

/-! ## Entries that are left out -/

section Entries

variable {registry : Registry}

/-- A name that is known after some entries was known before or has a grounded entry. -/
def KnownGrounded (table : Table String) (registry : Registry) : Prop :=
  ∀ name, registry.contains name = true → builtin.contains name = true ∨ Grounded table name

theorem knownGrounded_builtin (table : Table String) : KnownGrounded table builtin :=
  fun _ known => .inl known

/-- An entry can be taken only if it is grounded. -/
theorem KnownGrounded.grounded (bounded : KnownGrounded table registry) {name target : String}
    (links : table.Links name target) (known : registry.contains target = true) :
    Grounded table name := by
  rcases bounded target known with isBuiltin | grounded
  · exact .known links isBuiltin
  · exact .chain links grounded

theorem KnownGrounded.addAlias (bounded : KnownGrounded table registry)
    (wellFormed : registry.WellFormed) {name target : String} (links : table.Links name target) :
    KnownGrounded table (registry.addAlias name target).1 := by
  intro other contained
  rcases (wellFormed.contains_addAlias_iff name target other).mp contained
    with before | ⟨rfl, known⟩
  · exact bounded other before
  · exact .inr (bounded.grounded links known)

open scoped Classical in
/-- Entries that are not grounded change nothing, so they may be left out; and all names that
are known in the end are built-in or have a grounded entry. -/
theorem KnownGrounded.withAliases (bounded : KnownGrounded table registry)
    (wellFormed : registry.WellFormed) {entries : List (String × String)}
    (within : ∀ entry ∈ entries, table.Links entry.1 entry.2) :
    registry.withAliases entries =
        registry.withAliases (entries.filter fun entry => Grounded table entry.1) ∧
      KnownGrounded table (registry.withAliases entries) := by
  induction entries generalizing registry with
  | nil => exact ⟨rfl, bounded⟩
  | cons entry rest inductionHypothesis =>
      rcases List.forall_mem_cons.mp within with ⟨links, restLinks⟩
      rw [withAliases_cons]
      by_cases grounded : Grounded table entry.1
      · simp only [List.filter_cons, grounded, decide_true, if_true, withAliases_cons]
        exact inductionHypothesis (bounded.addAlias wellFormed links)
          (wellFormed.addAlias entry.1 entry.2) restLinks
      · have unknown : ¬registry.contains entry.2 = true := fun known =>
          grounded (bounded.grounded links known)
        rw [addAlias_eq, if_neg unknown]
        simp only [List.filter_cons, grounded, decide_false, Bool.false_eq_true, if_false]
        exact inductionHypothesis bounded wellFormed restLinks

end Entries

/-! ## Entries that are taken -/

theorem registry_result (config : Config) :
    config.registry.result = builtin.withAliases config.aliases.entries := by
  have folded (noted : Noted Registry) (entries : List (String × String)) :
      (entries.foldl addSettingAlias noted).result = noted.result.withAliases entries := by
    induction entries generalizing noted with
    | nil => rfl
    | cons entry rest inductionHypothesis => exact inductionHypothesis _
  exact folded ⟨builtin, []⟩ config.aliases.entries

open scoped Classical in
/-- The grounded entries of a table, in rising order. -/
noncomputable def groundedEntries (table : Table String) : List (String × String) :=
  table.entries.filter fun entry => Grounded table entry.1

theorem mem_groundedEntries_iff {key target : String} :
    (key, target) ∈ groundedEntries table ↔ GroundedLinks table key target := by
  classical
  rw [groundedEntries, List.mem_filter, decide_eq_true_eq, table.mem_entries_iff]
  rfl

theorem rising_groundedEntries (table : Table String) :
    (groundedEntries table).Pairwise fun first second => first.1 < second.1 :=
  table.rising.filter _

/-- The words of the settings are made of the grounded entries alone, and know no other names
than the built-in ones and the keys of these. -/
theorem registry_grounded (config : Config) :
    config.registry.result = builtin.withAliases (groundedEntries config.aliases) ∧
      KnownGrounded config.aliases config.registry.result := by
  rw [registry_result]
  exact (knownGrounded_builtin config.aliases).withAliases wellFormed_builtin
    fun entry listed => (config.aliases.mem_entries_iff _ _).mp listed

/-- The target of a grounded entry that is in order is known when the turn of the entry comes: a
target that is a key has had its turn by then, and its own target was known. -/
theorem Grounded.known_target {key : String} (grounded : Grounded table key)
    (inOrder : InOrder table key) {target : String} {before behind : List (String × String)}
    (split : groundedEntries table = before ++ (key, target) :: behind) :
    (builtin.withAliases before).contains target = true := by
  have rising := rising_groundedEntries table
  induction grounded generalizing target before behind with
  | @known key other links isBuiltin =>
      have links' : GroundedLinks table key target :=
        mem_groundedEntries_iff.mp (split ▸ List.mem_append_right _ List.mem_cons_self)
      cases table.links_functional links links'.1
      exact (wellFormed_builtin.withAliases before).2 _ isBuiltin
  | @chain key other links grounded inductionHypothesis =>
      have links' : GroundedLinks table key target :=
        mem_groundedEntries_iff.mp (split ▸ List.mem_append_right _ List.mem_cons_self)
      cases table.links_functional links links'.1
      rcases inOrder key other .refl links' grounded with inFront | isWord
      · obtain ⟨next, onward⟩ := grounded.exists_links
        have onwardLinks : GroundedLinks table other next := ⟨onward, grounded⟩
        have listed := mem_groundedEntries_iff.mpr onwardLinks
        have earlier : (other, next) ∈ before := by
          rw [split] at listed rising
          rcases List.mem_append.mp listed with earlier | later
          · exact earlier
          · obtain ⟨-, fromHere, -⟩ := List.pairwise_append.mp rising
            rcases List.mem_cons.mp later with same | later
            · cases same
              exact absurd inFront (String.lt_irrefl _)
            · have after := (List.pairwise_cons.mp fromHere).1 _ later
              exact absurd (String.lt_trans inFront after) (String.lt_irrefl _)
        obtain ⟨first, rest, rfl⟩ := List.append_of_mem earlier
        rw [List.append_assoc, List.cons_append] at split
        have further : InOrder table other := fun first next leads =>
          inOrder first next (.head links' leads)
        have nextKnown := inductionHypothesis further split
        have firstWellFormed := (wellFormed_builtin.withAliases first).1
        rw [withAliases_append, withAliases_cons]
        refine ((firstWellFormed.addAlias other next).withAliases rest).2 other ?_
        exact (firstWellFormed.contains_addAlias_iff ..).mpr (.inr ⟨rfl, nextKnown⟩)
      · have contained := (builtin.builders.mem_keys_iff other).mp isWord
        exact (wellFormed_builtin.withAliases before).2 _
          ((wellFormed_builtin.contains_iff other).mpr (.inl contained))

/-- The key of a grounded entry that is in order stands for the same word as the target.  A target
that becomes an alias later is a built-in word, and has stayed one up to the turn of the entry. -/
theorem Grounded.sameWord (config : Config) {key target : String}
    (grounded : Grounded config.aliases key) (inOrder : InOrder config.aliases key)
    (links : config.aliases.Links key target) :
    config.registry.result.SameWord key target := by
  have links' : GroundedLinks config.aliases key target := ⟨links, grounded⟩
  obtain ⟨before, behind, split⟩ := List.append_of_mem (mem_groundedEntries_iff.mpr links')
  have known := grounded.known_target inOrder split
  obtain ⟨beforeWellFormed, -⟩ := wellFormed_builtin.withAliases before
  have rising := rising_groundedEntries config.aliases
  rw [split, List.pairwise_append, List.pairwise_cons] at rising
  obtain ⟨-, ⟨keyFirst, behindRising⟩, crossing⟩ := rising
  have distinct : (behind.map Prod.fst).Nodup :=
    (List.pairwise_map.mpr behindRising).imp fun {first second} less =>
      (String.ne_of_lt less : first ≠ second)
  rw [(registry_grounded config).1, split, withAliases_append, withAliases_cons]
  refine (beforeWellFormed.addAlias key target).sameWord_withAliases
    (beforeWellFormed.sameWord_addAlias known key) distinct
    (fun entry member same => String.lt_irrefl key (same ▸ keyFirst entry member)) ?_
  rintro ⟨other, next⟩ member rfl
  have later : (other, next) ∈ groundedEntries config.aliases := by
    rw [split]
    exact List.mem_append_right _ (List.mem_cons_of_mem _ member)
  have behindKey : key < other := keyFirst _ member
  have isWord : other ∈ builtin.words :=
    (inOrder key other .refl links' (mem_groundedEntries_iff.mp later).2).resolve_left
      fun inFront => String.lt_irrefl key (String.lt_trans behindKey inFront)
  have alone := canonical_of_not_alias
    (wellFormed_builtin.apart other ((builtin.builders.mem_keys_iff other).mp isWord))
  refine beforeWellFormed.canonical_addAlias_word ?_ (String.ne_of_lt behindKey) other
  refine wellFormed_builtin.canonical_withAliases_word alone fun entry earlier same => ?_
  exact String.lt_irrefl other
    (same ▸ crossing entry earlier (other, next) (List.mem_cons_of_mem _ member))

/-- The key of a grounded entry that is in order stands for the same word as the name at which
following the grounded entries ends. -/
theorem Grounded.sameWord_of_leads (config : Config) {key last : String}
    (inOrder : InOrder config.aliases key)
    (leads : Relation.ReflTransGen (GroundedLinks config.aliases) key last) :
    config.registry.result.SameWord key last := by
  induction leads using Relation.ReflTransGen.head_induction_on with
  | refl => rfl
  | head links _ inductionHypothesis =>
      exact (links.2.sameWord config inOrder links.1).trans
        (inductionHypothesis fun first next further => inOrder first next (.head links further))

/-- A name whose word has no grounded entry, and has none itself, resolves as a built-in
name does. -/
theorem resolve?_of_not_grounded (config : Config) {name : String}
    (apart : ¬Grounded config.aliases name)
    (wordApart : ¬Grounded config.aliases (builtin.canonical name)) :
    config.registry.result.resolve? name = builtin.resolve? name := by
  have differs {other : String} (apart : ¬Grounded config.aliases other)
      (entry : String × String) (member : entry ∈ groundedEntries config.aliases) :
      entry.1 ≠ other := by
    rintro rfl
    exact apart (mem_groundedEntries_iff.mp (show (entry.1, entry.2) ∈ _ from member)).2
  rw [(registry_grounded config).1]
  exact (wellFormed_builtin.resolve?_withAliases (differs apart) (differs wordApart)).2

theorem registry_contains_builtin (config : Config) {name : String}
    (isBuiltin : builtin.contains name = true) :
    config.registry.result.contains name = true := by
  rw [registry_result]
  exact (wellFormed_builtin.withAliases config.aliases.entries).2 name isBuiltin

theorem Grounded.registry_contains (config : Config) {key : String}
    (grounded : Grounded config.aliases key) (inOrder : InOrder config.aliases key) :
    config.registry.result.contains key = true := by
  obtain ⟨target, links⟩ := grounded.exists_links
  have same := grounded.sameWord config inOrder links
  obtain ⟨before, behind, split⟩ :=
    List.append_of_mem (mem_groundedEntries_iff.mpr ⟨links, grounded⟩)
  rw [contains, same.resolve?_eq, ← contains, (registry_grounded config).1, split,
    withAliases_append]
  exact ((wellFormed_builtin.withAliases before).1.withAliases _).2 target
    (grounded.known_target inOrder split)

theorem registry_contains_eq_false (config : Config) {name : String}
    (notBuiltin : builtin.contains name = false) (apart : ¬Grounded config.aliases name) :
    config.registry.result.contains name = false := by
  rw [← Bool.not_eq_true]
  intro known
  rcases (registry_grounded config).2 name known with isBuiltin | grounded
  · rw [notBuiltin] at isBuiltin
    cases isBuiltin
  · exact apart grounded

/-! ## Renaming -/

def renamed (rename : String → String) (table : Table String) : Table String :=
  .ofList (table.entries.map fun entry => (rename entry.1, rename entry.2))

section Renaming

variable {rename : String → String}

theorem links_renamed_iff (injective : Function.Injective rename) {name next : String} :
    (renamed rename table).Links (rename name) next ↔
      ∃ target, table.Links name target ∧ rename target = next := by
  have distinct : ((table.entries.map fun entry => (rename entry.1, rename entry.2)).map
      Prod.fst).Nodup := by
    rw [List.map_map, show (Prod.fst ∘ fun entry : String × String =>
      (rename entry.1, rename entry.2)) = rename ∘ Prod.fst from rfl, ← List.map_map]
    exact table.nodup_keys.map injective
  rw [Table.Links, ← Table.mem_entries_iff, renamed, Table.mem_entries_ofList_iff distinct,
    List.mem_map]
  constructor
  · rintro ⟨⟨key, target⟩, listed, same⟩
    obtain ⟨sameKey, sameTarget⟩ := Prod.mk.inj same
    cases injective sameKey
    exact ⟨target, (table.mem_entries_iff key target).mp listed, sameTarget⟩
  · rintro ⟨target, links, rfl⟩
    exact ⟨(name, target), (table.mem_entries_iff name target).mpr links, rfl⟩

/-- A renaming that keeps the built-in names gives no other name a built-in one. -/
theorem builtin_contains_rename (injective : Function.Injective rename)
    (kept : ∀ name, builtin.contains name = true → rename name = name) (name : String) :
    builtin.contains (rename name) = builtin.contains name := by
  by_cases isBuiltin : builtin.contains name = true
  · rw [kept name isBuiltin]
  · have apart : ¬builtin.contains (rename name) = true := fun renamed =>
      isBuiltin (injective (kept _ renamed) ▸ renamed)
    rw [Bool.not_eq_true] at isBuiltin apart
    rw [isBuiltin, apart]

/-- Renaming changes nothing about which entries are grounded. -/
theorem grounded_renamed_iff (injective : Function.Injective rename)
    (kept : ∀ name, builtin.contains name = true → rename name = name) {key : String} :
    Grounded (renamed rename table) (rename key) ↔ Grounded table key := by
  constructor
  · generalize same : rename key = other
    intro grounded
    induction grounded generalizing key with
    | known links isBuiltin =>
        subst same
        obtain ⟨target, before, rfl⟩ := (links_renamed_iff injective).mp links
        exact .known before (builtin_contains_rename injective kept target ▸ isBuiltin)
    | chain links _ inductionHypothesis =>
        subst same
        obtain ⟨target, before, rfl⟩ := (links_renamed_iff injective).mp links
        exact .chain before (inductionHypothesis rfl)
  · intro grounded
    induction grounded with
    | @known key target links isBuiltin =>
        exact .known ((links_renamed_iff injective).mpr ⟨target, links, rfl⟩)
          ((builtin_contains_rename injective kept target).symm ▸ isBuiltin)
    | @chain key target links _ inductionHypothesis =>
        exact .chain ((links_renamed_iff injective).mpr ⟨target, links, rfl⟩) inductionHypothesis

end Renaming

/-! ## The words of the settings -/

/-- In settings whose aliases have no cycle, an entry is taken or left out as follows.

If it is grounded, following the grounded entries from its target ends at a built-in name.  If
it is in order too, the alias resolves to the builder of that name, and this is the built-in
one unless the name is a built-in alias of a word that has a grounded entry itself.

If it is not grounded and the alias is not a built-in name, the alias is not known.

Which aliases are known does not change when names that are not built-in are renamed
consistently, as long as the entry is in order under both names. -/
theorem registry_takes_aliases (config : Config) (acyclic : Acyclic config.aliases.Links)
    (name word : String) (entry : config.aliases.get? name = some word) :
    let registry := config.registry.result
    (Grounded config.aliases name →
      ∃ last, EndsAt (GroundedLinks config.aliases) word last ∧ builtin.contains last = true ∧
        (InOrder config.aliases name →
          ∃ builder, registry.resolve? last = some builder ∧
            registry.resolve? name = some builder ∧
            (¬Grounded config.aliases (builtin.canonical last) →
              builtin.resolve? last = some builder))) ∧
    (¬Grounded config.aliases name → builtin.contains name = false →
      registry.contains name = false) ∧
    (∀ rename : String → String, Function.Injective rename →
      (∀ other, builtin.contains other = true → rename other = other) →
      let others : Config := { config with aliases := renamed rename config.aliases }
      builtin.contains name = false → InOrder config.aliases name →
      InOrder others.aliases (rename name) →
      others.registry.result.contains (rename name) = registry.contains name) := by
  intro registry
  refine ⟨fun grounded => ?_, fun apart notBuiltin => ?_, fun rename injective kept => ?_⟩
  · obtain ⟨last, ends⟩ := (acyclic.mono fun _ _ => And.left).exists_endsAt config.aliases.keys
      (fun links => Table.mem_keys_of_links links.1) word
    have isBuiltin := grounded.builtin_of_endsAt entry ends
    refine ⟨last, ends, isBuiltin, fun inOrder => ?_⟩
    have same : registry.SameWord name last :=
      Grounded.sameWord_of_leads config inOrder (.head ⟨entry, grounded⟩ ends.leads)
    obtain ⟨builder, found⟩ :=
      Option.isSome_iff_exists.mp (registry_contains_builtin config isBuiltin)
    refine ⟨builder, found, same.resolve?_eq.trans found, fun wordApart => ?_⟩
    have lastApart : ¬Grounded config.aliases last := fun further =>
      further.exists_links.elim fun next links => ends.final next ⟨links, further⟩
    exact (resolve?_of_not_grounded config lastApart wordApart).symm.trans found
  · exact registry_contains_eq_false config notBuiltin apart
  · intro others notBuiltin inOrder otherInOrder
    by_cases grounded : Grounded config.aliases name
    · have otherGrounded := (grounded_renamed_iff injective kept).mpr grounded
      exact (otherGrounded.registry_contains others otherInOrder).trans
        (grounded.registry_contains config inOrder).symm
    · have otherApart := mt (grounded_renamed_iff injective kept).mp grounded
      have otherNotBuiltin := (builtin_contains_rename injective kept name).trans notBuiltin
      exact (registry_contains_eq_false others otherNotBuiltin otherApart).trans
        (registry_contains_eq_false config notBuiltin grounded).symm

/-- An alias of an alias of a built-in word that is made an alias itself.  The entry of that word
stands behind the one that leads to it, and an entry without a known target is left out. -/
theorem registry_takes_aliases_chain :
    let config : Config :=
      { aliases := Table.ofList
          [("brief", "level"), ("level", "thread"), ("short", "brief"), ("text", "other")] }
    ∃ builder, config.registry.result.resolve? "short" = some builder ∧
      builtin.resolve? "thread" = some builder ∧
      config.registry.result.contains "text" = false := by
  intro config
  have links (key target : String) (listed : (key, target) ∈ config.aliases.entries) :
      config.aliases.Links key target := (config.aliases.mem_entries_iff key target).mp listed
  let rank (name : String) : Nat :=
    ["thread", "other", "level", "brief", "short", "text"].idxOf name
  have falls : ∀ entry ∈ config.aliases.entries, rank entry.2 < rank entry.1 := by decide +kernel
  have acyclic := Table.acyclic_of_falls rank falls
  have toThread := links "level" "thread" (by decide +kernel)
  have toLevel := links "brief" "level" (by decide +kernel)
  have toBrief := links "short" "brief" (by decide +kernel)
  have toOther := links "text" "other" (by decide +kernel)
  obtain ⟨threadIn, otherOut, textOut, threadWord⟩ :
      builtin.contains "thread" = true ∧ builtin.contains "other" = false ∧
        builtin.contains "text" = false ∧ builtin.canonical "thread" = "thread" := by
    decide +kernel
  have level : Grounded config.aliases "level" := .known toThread threadIn
  have brief : Grounded config.aliases "brief" := .chain toLevel level
  have short : Grounded config.aliases "short" := .chain toBrief brief
  have notGrounded {name : String} (free : config.aliases.get? name = none) :
      ¬Grounded config.aliases name := fun grounded =>
    grounded.exists_links.elim (Table.not_links_of_free free)
  have threadApart := notGrounded (show config.aliases.get? "thread" = none by decide +kernel)
  have otherApart := notGrounded (show config.aliases.get? "other" = none by decide +kernel)
  have textApart : ¬Grounded config.aliases "text" := fun grounded =>
    (grounded.target toOther).elim
      (fun known => Bool.false_ne_true (otherOut.symm.trans known)) otherApart
  have ends : EndsAt (GroundedLinks config.aliases) "brief" "thread" :=
    .head ⟨toLevel, brief⟩
      (.head ⟨toThread, level⟩ (.refl fun next onward => threadApart onward.2))
  have inOrder : InOrder config.aliases "short" :=
    inOrder_of_entries (by decide +kernel) "short"
  obtain ⟨last, otherEnds, -, follows⟩ :=
    (registry_takes_aliases config acyclic "short" "brief" toBrief).1 short
  cases otherEnds.unique (groundedLinks_functional _) ends
  obtain ⟨builder, -, resolved, isBuiltin⟩ := follows inOrder
  refine ⟨builder, resolved, isBuiltin ?_, ?_⟩
  · rw [threadWord]
    exact threadApart
  · exact (registry_takes_aliases config acyclic "text" "other" toOther).2.1 textApart textOut

/-- Following an entry whose target is no key ends at the target. -/
theorem endsAt_target {key target : String} (links : table.Links key target)
    (free : table.get? target = none) : EndsAt table.Links key target := by
  apply EndsAt.head links
  apply EndsAt.refl
  exact Table.not_links_of_free free

/-- It is not so that every alias takes effect as following all entries tells, for two reasons.

An entry that is left out leaves the built-in word of its name as it was, so that an alias of that
word is known, although following the entries on ends at an unknown name.

And an entry is left out, grounded or not, if it stands in front of the one that makes its target
known.  So it depends on how the names sort whether an alias is known: `a = "b"` is left out in
front of `b = "level"`, and with `z` in place of `a` it is taken. -/
theorem registry_not_follows_table :
    (¬∀ (config : Config), Acyclic config.aliases.Links → ∀ name word,
      config.aliases.get? name = some word → ∀ last, EndsAt config.aliases.Links word last →
      let registry := config.registry.result
      (builtin.contains last = true →
        ∃ builder, registry.resolve? last = some builder ∧
          registry.resolve? name = some builder) ∧
      (builtin.contains last = false → builtin.contains name = false →
        registry.contains name = false)) ∧
    let behind : Config := { aliases := Table.ofList [("a", "b"), ("b", "level")] }
    let rename := Equiv.swap "a" "z"
    let inFront : Config := { behind with aliases := renamed rename behind.aliases }
    Acyclic behind.aliases.Links ∧ behind.aliases.get? "a" = some "b" ∧
      Grounded behind.aliases "a" ∧ EndsAt behind.aliases.Links "b" "level" ∧
      builtin.contains "level" = true ∧ builtin.contains "a" = false ∧
      behind.registry.result.contains "a" = false ∧
      (∀ name, builtin.contains name = true → rename name = name) ∧
      inFront.aliases.get? "z" = some "b" ∧
      inFront.registry.result.contains (rename "a") = true := by
  constructor
  · intro claimed
    let config : Config := { aliases := Table.ofList [("level", "nosuch"), ("x", "level")] }
    let rank (name : String) : Nat := ["nosuch", "level", "x"].idxOf name
    have acyclic : Acyclic config.aliases.Links :=
      Table.acyclic_of_falls rank (by decide +kernel)
    have left : config.aliases.get? "level" = some "nosuch" := by decide +kernel
    have ends : EndsAt config.aliases.Links "level" "nosuch" :=
      endsAt_target left (by decide +kernel)
    have known : config.registry.result.contains "x" = true := by decide +kernel
    rcases claimed config acyclic "x" "level" (by decide +kernel) "nosuch" ends with ⟨-, claimed⟩
    have unknown := claimed (by decide +kernel) (by decide +kernel)
    exact Bool.false_ne_true (unknown.symm.trans known)
  · intro behind rename inFront
    let rank (name : String) : Nat := ["level", "b", "a"].idxOf name
    have toB : behind.aliases.get? "a" = some "b" := by decide +kernel
    have toLevel : behind.aliases.get? "b" = some "level" := by decide +kernel
    have levelIn : builtin.contains "level" = true := by decide +kernel
    have apart {name other : String} (known : builtin.contains name = true)
        (unknown : builtin.contains other = false) : name ≠ other := by
      rintro rfl
      exact Bool.false_ne_true (unknown.symm.trans known)
    refine ⟨Table.acyclic_of_falls rank (by decide +kernel), toB,
      .chain toB (.known toLevel levelIn), endsAt_target toLevel (by decide +kernel), levelIn,
      by decide +kernel, by decide +kernel, ?_, by decide +kernel, by decide +kernel⟩
    intro name known
    apply Equiv.swap_apply_of_ne_of_ne
    · exact apart known (by decide +kernel)
    · exact apart known (by decide +kernel)

end LogLayout.Config
