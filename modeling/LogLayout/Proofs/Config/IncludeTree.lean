import LogLayout.Proofs.Config.Loading

namespace LogLayout.Config

/-!
# Trees of files and other includes

Where the includes form a tree, loading gives every alias and every application the value in
the first file of a walk that has it.  Where they form no tree, loading fails as if there were
a cycle.  There may be none: a file that two lines name is enough.
-/

variable {environment : Environment}

/-- **Loading a tree of files.**  Where the includes form a tree, loading succeeds exactly if
every file of the tree can be read and holds settings.  Then how lines are formatted, what
patterns show and which notices are shown is as the root says, and every alias and every
application is as the first file says that has it, in the order of the walk from the root.
What a file includes lies where one of its lines aims at from the folder of that file. -/
theorem loadFrom_tree {path : String} {root : Place}
    (there : environment.files.locate environment.folder path = .ok root)
    (tree : TreeShaped environment root) :
    ((∃ config, (loadFrom environment path).result = .ok config) ↔
      ∀ place, Reaches environment root place → (ownSettings? environment place).isSome) ∧
    (∀ config, (loadFrom environment path).result = .ok config →
      ∃ own order, ownSettings? environment root = some own ∧
        Walk environment [root] order ∧ order.Nodup ∧
        (∀ place, place ∈ order ↔ Reaches environment root place) ∧
        config.formatter = own.formatter ∧ config.context = own.context ∧
        config.noticeLevel = own.noticeLevel ∧
        ∀ name,
          config.aliases.get? name = (order.findSome? fun place =>
            (ownSettings? environment place).bind fun settings => settings.aliases.get? name) ∧
          config.apps.get? name = (order.findSome? fun place =>
            (ownSettings? environment place).bind fun settings => settings.apps.get? name)) ∧
    ∀ place included, Includes environment place included →
      ∃ text, environment.files.textAt place = .ok text ∧
        ∃ source ∈ (extractSources text).sources,
          included = FileTree.aimAt place.dropLast (environment.expandTilde source) := by
  refine ⟨⟨?_, ?_⟩, ?_, fun place included named => named.aimed⟩
  · rintro ⟨config, loaded⟩
    obtain ⟨_, _, _, _, _, useful, _⟩ := gathered_of_loaded there loaded
    exact useful
  · intro useful
    rcases loaded_or_cyclic there useful with ⟨_, loaded⟩ | ⟨noTree, _⟩
    · exact loaded
    · exact absurd tree noTree
  · intro config loaded
    obtain ⟨own, inside, settings, walk, nodup, _, rfl⟩ := gathered_of_loaded there loaded
    obtain ⟨formatter, context, noticeLevel⟩ :=
      foldl_merge_kept own (inside.filterMap (ownSettings? environment))
    have visited (place : Place) : place ∈ root :: inside ↔ Reaches environment root place := by
      rw [walk.mem_iff]
      constructor
      · rintro ⟨start, isRoot, reached⟩
        exact List.mem_singleton.mp isRoot ▸ reached
      · exact fun reached => ⟨root, List.mem_singleton_self root, reached⟩
    refine ⟨own, root :: inside, settings, walk, nodup, visited, formatter, context,
      noticeLevel, fun name => ⟨?_, ?_⟩⟩
    · exact get?_gather aliases (fun _ _ => rfl) settings inside name
    · exact get?_gather apps (fun _ _ => rfl) settings inside name

def ofTexts (texts : List (Place × String)) : Environment where
  files := ⟨texts.map fun (place, text) => (place, .file (Text.encode text))⟩
  bindings := .empty
  program := "program"

/-- A file that includes two others, the first of which includes a file beside it.  Another
line leads nowhere, and two files have the same alias. -/
def branching : Environment := ofTexts [
  (["root.toml"], "source = \"d/a.toml\"\nsource = \"gone\"\nsource = \"b.toml\"\n"),
  (["d", "a.toml"], "source = \"c.toml\"\n"),
  (["d", "c.toml"], "[aliases]\nsev = \"level\"\n"),
  (["b.toml"], "[aliases]\nsev = \"date\"\nat = \"line\"\n")]

/-- The first line decides on an alias, though in a file further down, and the last line on
what is left. -/
theorem loadFrom_tree_branching :
    TreeShaped branching ["root.toml"] ∧
      ∃ config, (loadFrom branching "root.toml").result = .ok config ∧
        config.aliases.get? "sev" = some "level" ∧
        config.aliases.get? "at" = some "line" := by
  have walk : Walk branching [["root.toml"]]
      [["root.toml"], ["d", "a.toml"], ["d", "c.toml"], ["b.toml"]] :=
    .enter [["d", "a.toml"], ["b.toml"]] (by decide +kernel)
      (.enter [["d", "c.toml"]] (by decide +kernel)
        (.enter [] (by decide +kernel) .done .done)
        (.enter [] (by decide +kernel) .done .done))
      .done
  have tree := walk.treeShaped (by decide)
  have there : branching.files.locate branching.folder "root.toml" = .ok ["root.toml"] := by
    decide +kernel
  have useful := useful_of_places branching (List.mem_cons_self (a := ["root.toml"]))
    (by decide +kernel) (by decide +kernel)
  obtain ⟨succeeds, values, -⟩ := loadFrom_tree there tree
  obtain ⟨config, loaded⟩ := succeeds.mpr useful
  obtain ⟨own, order, -, orderWalk, -, -, -, -, -, entries⟩ := values config loaded
  obtain rfl := walk.unique orderWalk
  refine ⟨tree, config, loaded, ?_, ?_⟩
  all_goals
    rw [(entries _).1]
    decide +kernel

/-- **What is reported as cyclic.**  Where every file that can be reached is of use, loading
succeeds if the includes form a tree and fails as cyclic if they do not.  So every cycle is
reported, but not cycles alone: also a file that is named by two lines is taken for a cycle,
even where no file leads back to itself. -/
theorem loadFrom_cyclic_iff {path : String} {root : Place}
    (there : environment.files.locate environment.folder path = .ok root)
    (useful : ∀ place, Reaches environment root place →
      (ownSettings? environment place).isSome) :
    ((∃ place, (loadFrom environment path).result = .error (.cyclic place)) ↔
      ¬TreeShaped environment root) ∧
    ((∃ config, (loadFrom environment path).result = .ok config) ↔
      TreeShaped environment root) ∧
    (HasCycle environment root →
      ∃ place, (loadFrom environment path).result = .error (.cyclic place)) := by
  rcases loaded_or_cyclic there useful with ⟨tree, config, loaded⟩ | ⟨noTree, place, failed⟩
  · refine ⟨iff_of_false ?_ (not_not_intro tree), iff_of_true ⟨config, loaded⟩ tree,
      fun cycle => absurd cycle tree.not_hasCycle⟩
    rintro ⟨place, failed⟩
    cases failed.symm.trans loaded
  · refine ⟨iff_of_true ⟨place, failed⟩ noTree, iff_of_false ?_ noTree,
      fun _ => ⟨place, failed⟩⟩
    rintro ⟨config, loaded⟩
    cases failed.symm.trans loaded

/-- Two files that include each other. -/
def ring : Environment := ofTexts [
  (["a.toml"], "source = \"b.toml\"\n"),
  (["b.toml"], "source = \"a.toml\"\n[aliases]\nsev = \"level\"\n")]

/-- Two files that include each other are reported as cyclic. -/
theorem loadFrom_cyclic_iff_ring :
    HasCycle ring ["a.toml"] ∧
      ∃ place, (loadFrom ring "a.toml").result = .error (.cyclic place) := by
  have cycle : HasCycle ring ["a.toml"] := by
    have there : Includes ring ["a.toml"] ["b.toml"] := by decide +kernel
    have back : Includes ring ["b.toml"] ["a.toml"] := by decide +kernel
    exact ⟨["a.toml"], .refl, .tail (.single there) back⟩
  have useful := useful_of_places ring (List.mem_cons_self (a := ["a.toml"]))
    (by decide +kernel) (by decide +kernel)
  exact ⟨cycle, (loadFrom_cyclic_iff (by decide +kernel) useful).2.2 cycle⟩

/-- Two files that include the same third file. -/
def shared : Environment := ofTexts [
  (["root.toml"], "source = \"a.toml\"\nsource = \"b.toml\"\n"),
  (["a.toml"], "source = \"c.toml\"\n"),
  (["b.toml"], "source = \"c.toml\"\n"),
  (["c.toml"], "[aliases]\nsev = \"level\"\n")]

/-- A file that two others include is reported as cyclic, though all files can be read and hold
settings, and none leads back to itself. -/
theorem loadFrom_shared_file :
    shared.files.locate shared.folder "root.toml" = .ok ["root.toml"] ∧
      (∀ place ∈ shared.files.places, (ownSettings? shared place).isSome) ∧
      ¬HasCycle shared ["root.toml"] ∧
      ∃ place, (loadFrom shared "root.toml").result = .error (.cyclic place) := by
  have allUseful : ∀ place ∈ shared.files.places, (ownSettings? shared place).isSome := by
    decide +kernel
  have there : shared.files.locate shared.folder "root.toml" = .ok ["root.toml"] := by
    decide +kernel
  have noCycle : ¬HasCycle shared ["root.toml"] :=
    not_hasCycle_of_rank (fun place => shared.files.places.idxOf place) (by decide +kernel) _
  have noTree : ¬TreeShaped shared ["root.toml"] := by
    intro tree
    have toFirst : Includes shared ["root.toml"] ["a.toml"] := by decide +kernel
    have toSecond : Includes shared ["root.toml"] ["b.toml"] := by decide +kernel
    have fromFirst : Includes shared ["a.toml"] ["c.toml"] := by decide +kernel
    have fromSecond : Includes shared ["b.toml"] ["c.toml"] := by decide +kernel
    have same := tree.parent_unique (.single toFirst) (.single toSecond) fromFirst fromSecond
    exact absurd same (by decide)
  have useful := useful_of_places shared (List.mem_cons_self (a := ["root.toml"]))
    (by decide +kernel) allUseful
  rcases loaded_or_cyclic there useful with ⟨tree, _⟩ | ⟨_, failed⟩
  · exact absurd tree noTree
  · exact ⟨there, allUseful, noCycle, failed⟩

end LogLayout.Config
