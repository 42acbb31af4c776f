import LogLayout.Config.Load
import LogLayout.Proofs.Config.Includes
import LogLayout.Proofs.Config.Merging

namespace LogLayout.Config

/-!
# Loading settings with the files that they include

The loader keeps one list of the files that it has read, over all branches of the includes,
and refuses to read a file again.  So it cannot tell a file that is still being loaded from
one that another line has included before: it comes to an end exactly where no file is named
twice.  There it merges the settings of the files in the order of a walk.

`Outcome` says what loading some files may end in, for any files and any list of files read
before.  It is shown for the loader by induction on its own recursion; loading from one file
is the case of nothing read before.
-/

variable {environment : Environment}

/-! ## What loading comes to -/

/-- Settings with those of the visited files added in order. -/
def gather (environment : Environment) (start : Config) (order : List Place) : Config :=
  (order.filterMap (ownSettings? environment)).foldl merge start

/-- Files gathered in two steps are those gathered at once. -/
theorem gather_gather (start : Config) (order further : List Place) :
    gather environment (gather environment start order) further =
      gather environment start (order ++ further) := by
  rw [gather, gather, gather, List.filterMap_append, List.foldl_append]

/-- What a file gathers for itself may be added to other settings afterwards. -/
theorem merge_gather {place : Place} {own : Config}
    (settings : ownSettings? environment place = some own) (start : Config)
    (inside : List Place) :
    start.merge (gather environment own inside) =
      gather environment start (place :: inside) := by
  rw [gather, gather, List.filterMap_cons_some settings, merge_foldl_merge]

/-- What is looked up among gathered settings is found in the first file that has it. -/
theorem get?_gather {Value : Type} (table : Config → Table Value)
    (united : ∀ config other, table (merge config other) = (table config).union (table other))
    {root : Place} {own : Config} (settings : ownSettings? environment root = some own)
    (inside : List Place) (name : String) :
    (table (gather environment own inside)).get? name =
      ((root :: inside).findSome? fun place =>
        (ownSettings? environment place).bind fun settings => (table settings).get? name) := by
  rw [gather, get?_foldl_merge table united, ← List.filterMap_cons_some settings,
    ← List.head?_filterMap, List.filterMap_filterMap, List.head?_filterMap]

/-- Files can be visited in a row without meeting any of them twice: each leads to a tree,
the trees have no file in common, and none of their files has been read. -/
structure Clear (environment : Environment) (pending read : List Place) : Prop where
  trees : ∀ start ∈ pending, TreeShaped environment start
  apart : pending.Pairwise fun first second =>
    ∀ place, Reaches environment first place → ¬Reaches environment second place
  fresh : ∀ start ∈ pending, ∀ place, Reaches environment start place → place ∉ read

namespace Clear

variable {place : Place} {pending read order : List Place}

theorem of_treeShaped (tree : TreeShaped environment place) : Clear environment [place] [] where
  trees := by simpa using tree
  apart := List.pairwise_singleton _ _
  fresh := fun _ _ _ _ => List.not_mem_nil

/-- The first of some files can be visited. -/
theorem first (clear : Clear environment (place :: pending) read) :
    Clear environment [place] read where
  trees := by simpa using clear.trees place List.mem_cons_self
  apart := List.pairwise_singleton _ _
  fresh := by simpa using clear.fresh place List.mem_cons_self

/-- After a walk through the first file, the others can still be visited. -/
theorem others (clear : Clear environment (place :: pending) read)
    (walk : Walk environment [place] order) : Clear environment pending (read ++ order) where
  trees := fun start member => clear.trees start (List.mem_cons_of_mem _ member)
  apart := (List.pairwise_cons.mp clear.apart).2
  fresh := by
    intro start member reachedPlace reached visited
    rcases List.mem_append.mp visited with old | new
    · exact clear.fresh start (List.mem_cons_of_mem _ member) reachedPlace reached old
    · obtain ⟨_, isPlace, fromPlace⟩ := (walk.mem_iff reachedPlace).mp new
      rw [List.mem_singleton] at isPlace
      subst isPlace
      exact (List.pairwise_cons.mp clear.apart).1 start member reachedPlace fromPlace reached

/-- Once a file has been read, the files that it includes can be visited. -/
theorem inside (clear : Clear environment [place] read) :
    Clear environment (includes environment place) (read ++ [place]) := by
  have tree := clear.trees place (List.mem_singleton_self place)
  refine ⟨fun child named => tree.included named, tree.lines_apart, ?_⟩
  intro child named reachedPlace reached visited
  rcases List.mem_append.mp visited with old | new
  · exact clear.fresh place (List.mem_singleton_self place) reachedPlace
      (reached.head named) old
  · rw [List.mem_singleton] at new
    exact tree.not_reaches_root named (new ▸ reached)

end Clear

/-- What loading some files may end in: all of them are gathered in the order of a walk that
meets no file twice, or a file is of no use, or some file is met twice. -/
inductive Outcome (environment : Environment) (pending : List Place) (start : Config)
    (read : List Place) (loading : Loading) : Prop
  | loaded (order : List Place) (walk : Walk environment pending order)
    (once : read.Nodup → (read ++ order).Nodup)
    (usable : ∀ place ∈ order, (ownSettings? environment place).isSome)
    (result : loading.result = .ok (gather environment start order))
    (visited : loading.read = read ++ order)
  | unusable (first place : Place) (member : first ∈ pending)
    (reached : Reaches environment first place)
    (useless : ownSettings? environment place = none) (failure : LoadError)
    (result : loading.result = .error failure)
  | repeated (blocked : ¬Clear environment pending read) (place : Place)
    (result : loading.result = .error (.cyclic place))

/-- What loading one file may end in, before it is merged into other settings. -/
inductive Entry (environment : Environment) (place : Place) (read : List Place)
    (loading : Loading) : Prop
  | again (old : place ∈ read) (result : loading.result = .error (.cyclic place))
  | useless (none : ownSettings? environment place = none) (failure : LoadError)
    (result : loading.result = .error failure)
  | entered (new : place ∉ read) (own : Config)
    (settings : ownSettings? environment place = some own)
    (outcome : Outcome environment (includes environment place) own (read ++ [place]) loading)

namespace Outcome

variable {place : Place} {pending read : List Place} {start : Config} {first loading : Loading}

theorem with_notices (outcome : Outcome environment pending start read loading)
    (notices : List Notice) :
    Outcome environment pending start read { loading with notices } := by
  cases outcome with
  | loaded order walk once usable gathered visited =>
      exact .loaded order walk once usable gathered visited
  | unusable origin useless member reached none failure failed =>
      exact .unusable origin useless member reached none failure failed
  | repeated blocked again failed => exact .repeated blocked again failed

/-- Where loading the first of some files fails, loading them all fails alike. -/
theorem of_failed {failure : LoadError} (outcome : Outcome environment [place] start read first)
    (failed : first.result = .error failure) (result : loading.result = .error failure) :
    Outcome environment (place :: pending) start read loading := by
  cases outcome with
  | loaded order walk once usable gathered visited =>
      rw [gathered] at failed
      cases failed
  | unusable origin useless member reached none other failedSo =>
      rw [List.mem_singleton] at member
      exact .unusable place useless List.mem_cons_self (member ▸ reached) none failure result
  | repeated blocked again failedSo =>
      refine .repeated (fun clear => blocked clear.first) again ?_
      rw [result, ← failed, failedSo]

/-- Where the first of some files is loaded, the others are loaded into what it gave. -/
theorem cons {config : Config} (outcome : Outcome environment [place] start read first)
    (loadedFirst : first.result = .ok config)
    (others : Outcome environment pending config first.read loading) :
    Outcome environment (place :: pending) start read loading := by
  cases outcome with
  | unusable origin useless member reached none failure failed =>
      rw [failed] at loadedFirst
      cases loadedFirst
  | repeated blocked again failed =>
      rw [failed] at loadedFirst
      cases loadedFirst
  | loaded order walk once usable gathered visited =>
      obtain rfl : gather environment start order = config :=
        Except.ok.inj (gathered.symm.trans loadedFirst)
      rw [visited] at others
      cases others with
      | loaded further furtherWalk furtherOnce furtherUsable furtherGathered furtherVisited =>
          refine .loaded (order ++ further) (walk.append furtherWalk) ?_ ?_ ?_ ?_
          · intro nodup
            rw [← List.append_assoc]
            exact furtherOnce (once nodup)
          · intro visitedPlace member
            exact (List.mem_append.mp member).elim (usable visitedPlace)
              (furtherUsable visitedPlace)
          · rw [furtherGathered, gather_gather]
          · rw [furtherVisited, List.append_assoc]
      | unusable origin useless member reached none failure failed =>
          exact .unusable origin useless (List.mem_cons_of_mem _ member) reached none failure failed
      | repeated blocked again failed =>
          exact .repeated (fun clear => blocked (clear.others walk)) again failed

end Outcome

/-- Merged into other settings, a loaded file counts among the files gathered there. -/
theorem Entry.outcome {place : Place} {read : List Place} {loading : Loading}
    (entry : Entry environment place read loading) (start : Config) :
    Outcome environment [place] start read
      { loading with result := loading.result.map start.merge } := by
  have member : place ∈ [place] := List.mem_singleton_self place
  cases entry with
  | again old failed =>
      refine .repeated (fun clear => clear.fresh place member place .refl old) place ?_
      rw [failed]
      rfl
  | useless none failure failed =>
      refine .unusable place place member .refl none failure ?_
      rw [failed]
      rfl
  | entered new own settings outcome =>
      cases outcome with
      | loaded inside walk once usable gathered visited =>
          have visitsInside : Walk environment [place] (place :: inside) := by
            simpa using Walk.visit walk .done
          refine .loaded (place :: inside) visitsInside ?_ ?_ ?_ ?_
          · intro nodup
            rw [List.append_cons]
            exact once (List.concat_eq_append ▸ nodup.concat new)
          · exact List.forall_mem_cons.mpr ⟨by rw [settings]; rfl, usable⟩
          · rw [gathered, ← merge_gather settings]
            rfl
          · rw [visited, ← List.append_cons]
      | unusable origin useless named reached none failure failed =>
          refine .unusable place useless member (reached.head named) none failure ?_
          rw [failed]
          rfl
      | repeated blocked again failed =>
          refine .repeated (fun clear => blocked clear.inside) again ?_
          rw [failed]
          rfl

/-! ## The loader keeps to it -/

/-- A file that cannot be read makes loading fail, and is not among those that have been read. -/
theorem loadPlace_unreadable {place : Place} {read : List Place} {flaw : FileFlaw}
    (new : place ∉ read) (found : environment.files.textAt place = .error flaw) :
    (loadPlace environment place read).1 = ⟨.error (.unreadable flaw), read, []⟩ := by
  rw [loadPlace, dif_neg new]
  split
  next otherFlaw foundOther =>
    obtain rfl : flaw = otherFlaw := Except.error.inj (found.symm.trans foundOther)
    rfl
  next text foundText =>
    rw [found] at foundText
    cases foundText

/-- A file that holds no settings makes loading fail after it has been read. -/
theorem loadPlace_invalid {place : Place} {read : List Place} {text : String}
    (new : place ∉ read) (found : environment.files.textAt place = .ok text)
    (invalid : parse? text = none) :
    (loadPlace environment place read).1 = ⟨.error .invalid, read ++ [place], []⟩ := by
  rw [loadPlace, dif_neg new]
  split
  next flaw foundFlaw =>
    rw [found] at foundFlaw
    cases foundFlaw
  next otherText foundOther =>
    obtain rfl : text = otherText := Except.ok.inj (found.symm.trans foundOther)
    dsimp only
    split
    next => rfl
    next config decoded => cases invalid.symm.trans decoded

/-- Another file is loaded by loading into its own settings what its lines name. -/
theorem loadPlace_entered {place : Place} {read : List Place} {text : String} {own : Config}
    (new : place ∉ read) (found : environment.files.textAt place = .ok text)
    (parsed : parse? text = some own) :
    (loadPlace environment place read).1 =
      (loadSources environment place.dropLast (extractSources text).sources own
        (read ++ [place])).1 := by
  rw [loadPlace, dif_neg new]
  split
  next flaw foundFlaw =>
    rw [found] at foundFlaw
    cases foundFlaw
  next otherText foundOther =>
    obtain rfl : text = otherText := Except.ok.inj (found.symm.trans foundOther)
    dsimp only
    split
    next notDecoded => cases notDecoded.symm.trans parsed
    next config decoded =>
      obtain rfl : own = config := Option.some.inj (parsed.symm.trans decoded)
      rfl

section

variable {folder place : Place} {source : String} (others : List String) (config : Config)
  (read : List Place)

theorem loadSources_absent {flaw : FileFlaw}
    (absent : environment.files.locate folder (environment.expandTilde source) = .error flaw) :
    ∃ notices, (loadSources environment folder (source :: others) config read).1 =
      { (loadSources environment folder others config read).1 with notices } := by
  rw [loadSources, absent]
  exact ⟨_, rfl⟩

/-- Where the file of a line cannot be loaded, nothing is, and no further file is read. -/
theorem loadSources_failed {failure : LoadError}
    (located : environment.files.locate folder (environment.expandTilde source) = .ok place)
    (failed : (loadPlace environment place read).1.result = .error failure) :
    ∃ notices, (loadSources environment folder (source :: others) config read).1 =
      { (loadPlace environment place read).1 with notices } := by
  rw [loadSources, located]
  dsimp only
  split
  next other same =>
    rw [← same]
    exact ⟨_, rfl⟩
  next other loaded =>
    rw [failed] at loaded
    cases loaded

/-- Where the file of a line is loaded, the further lines are loaded into what it adds. -/
theorem loadSources_included {other : Config}
    (located : environment.files.locate folder (environment.expandTilde source) = .ok place)
    (loaded : (loadPlace environment place read).1.result = .ok other) :
    ∃ notices, (loadSources environment folder (source :: others) config read).1 =
      { (loadSources environment folder others (config.merge other)
          (loadPlace environment place read).1.read).1 with notices } := by
  rw [loadSources, located]
  dsimp only
  split
  next failure failed =>
    rw [failed] at loaded
    cases loaded
  next otherConfig loadedOther =>
    obtain rfl : otherConfig = other := Except.ok.inj (loadedOther.symm.trans loaded)
    exact ⟨_, rfl⟩

end

/-- Loading ends in one of its outcomes, for a file and for the lines of a file.  The cases
are those of the two functions, which call each other. -/
theorem load_outcomes (environment : Environment) :
    (∀ place read, Entry environment place read (loadPlace environment place read).1) ∧
      ∀ folder sources config read,
        Outcome environment (locateAll environment folder sources) config read
          (loadSources environment folder sources config read).1 := by
  refine loadPlace.mutual_induct environment
    (fun place read => Entry environment place read (loadPlace environment place read).1)
    (fun folder sources config read =>
      Outcome environment (locateAll environment folder sources) config read
        (loadSources environment folder sources config read).1)
    ?again ?unreadable ?invalid ?entered ?done ?absent ?failing ?included
  case again =>
    intro place read old
    refine .again old ?_
    rw [loadPlace, dif_pos old]
  case unreadable =>
    intro place read new flaw found
    have none : ownSettings? environment place = none := by rw [ownSettings?, found]
    refine .useless none (.unreadable flaw) ?_
    rw [loadPlace_unreadable new found]
  case invalid =>
    intro place read new text found _ _ extract notDecoded
    have none : ownSettings? environment place = none := by
      rw [ownSettings?, found]
      exact notDecoded
    refine .useless none .invalid ?_
    rw [loadPlace_invalid new found notDecoded]
  case entered =>
    intro place read new text found _ _ extract own decoded _ inductionHypothesis
    have settings : ownSettings? environment place = some own := by
      rw [ownSettings?, found]
      exact decoded
    refine .entered new own settings ?_
    rw [loadPlace_entered new found decoded, includes, found]
    exact inductionHypothesis
  case done =>
    intro folder config read
    rw [loadSources]
    exact .loaded [] .done (by simp) (by simp) rfl (List.append_nil read).symm
  case absent =>
    intro folder config read source others flaw absent inductionHypothesis
    obtain ⟨notices, same⟩ := loadSources_absent others config read absent
    rw [locateAll_absent others absent, same]
    exact inductionHypothesis.with_notices notices
  case failing =>
    intro folder config read source others place located included failure failed entry
    have mergedFails : included.1.result.map config.merge = .error failure := by
      rw [failed]
      rfl
    obtain ⟨notices, same⟩ := loadSources_failed others config read located failed
    rw [locateAll_located others located, same]
    exact (entry.outcome config).of_failed mergedFails failed
  case included =>
    intro folder config read source others place located included other loaded _ entry _
      inductionHypothesis
    have merged : included.1.result.map config.merge = .ok (config.merge other) := by
      rw [loaded]
      rfl
    obtain ⟨notices, same⟩ := loadSources_included others config read located loaded
    rw [locateAll_located others located, same]
    exact ((entry.outcome config).cons merged inductionHypothesis).with_notices notices

/-! ## Loading from one file -/

section

variable {path : String} {root : Place}
  (there : environment.files.locate environment.folder path = .ok root)

include there

/-- What loading from an existing file ends in: its settings with those of the visited files,
or a file of no use that can be reached, or includes that form no tree. -/
theorem loadFrom_cases :
    (∃ own inside, ownSettings? environment root = some own ∧
      Walk environment [root] (root :: inside) ∧ (root :: inside).Nodup ∧
      (∀ place ∈ root :: inside, (ownSettings? environment place).isSome) ∧
      (loadFrom environment path).result = .ok (gather environment own inside)) ∨
    (∃ place, Reaches environment root place ∧ ownSettings? environment place = none ∧
      ∃ failure, (loadFrom environment path).result = .error failure) ∨
    (¬TreeShaped environment root ∧
      ∃ place, (loadFrom environment path).result = .error (.cyclic place)) := by
  have sameResult : (loadFrom environment path).result =
      (loadPlace environment root []).1.result := by rw [loadFrom, there]
  rw [sameResult]
  cases (load_outcomes environment).1 root [] with
  | again old _ => cases old
  | useless none failure failed => exact .inr (.inl ⟨root, .refl, none, failure, failed⟩)
  | entered new own settings outcome =>
      cases outcome with
      | loaded inside walk once usable gathered _ =>
          refine .inl ⟨own, inside, settings, by simpa using Walk.visit walk .done,
            once (List.nodup_singleton root), ?_, gathered⟩
          exact List.forall_mem_cons.mpr ⟨by rw [settings]; rfl, usable⟩
      | unusable first place member reached none failure failed =>
          exact .inr (.inl ⟨place, reached.head member, none, failure, failed⟩)
      | repeated blocked place failed =>
          refine .inr (.inr ⟨fun tree => blocked ?_, place, failed⟩)
          exact (Clear.of_treeShaped tree).inside

/-- Loaded settings are gathered on a walk that meets no file twice, and every file that can
be reached is of use. -/
theorem gathered_of_loaded {config : Config}
    (loaded : (loadFrom environment path).result = .ok config) :
    ∃ own inside, ownSettings? environment root = some own ∧
      Walk environment [root] (root :: inside) ∧ (root :: inside).Nodup ∧
      (∀ place, Reaches environment root place → (ownSettings? environment place).isSome) ∧
      gather environment own inside = config := by
  rcases loadFrom_cases there with ⟨own, inside, settings, walk, nodup, usable, gathered⟩ |
    ⟨_, _, _, failure, failed⟩ | ⟨_, place, failed⟩
  · refine ⟨own, inside, settings, walk, nodup, fun place reached => usable place ?_, ?_⟩
    · exact (walk.mem_iff place).mpr ⟨root, List.mem_singleton_self root, reached⟩
    · exact Except.ok.inj (gathered.symm.trans loaded)
  · cases failed.symm.trans loaded
  · cases failed.symm.trans loaded

/-- Where all files are of use, a tree of them is loaded, and other includes are taken for a
cycle. -/
theorem loaded_or_cyclic
    (useful : ∀ place, Reaches environment root place →
      (ownSettings? environment place).isSome) :
    (TreeShaped environment root ∧
      ∃ config, (loadFrom environment path).result = .ok config) ∨
    (¬TreeShaped environment root ∧
      ∃ place, (loadFrom environment path).result = .error (.cyclic place)) := by
  rcases loadFrom_cases there with ⟨_, _, _, walk, nodup, _, loaded⟩ |
    ⟨place, reached, none, _⟩ | cyclic
  · exact .inl ⟨walk.treeShaped nodup, _, loaded⟩
  · have usefulPlace := useful place reached
    rw [none] at usefulPlace
    cases usefulPlace
  · exact .inr cyclic

end

end LogLayout.Config
