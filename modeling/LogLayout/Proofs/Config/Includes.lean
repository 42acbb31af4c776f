import LogLayout.Config.Toml
import LogLayout.Environment
import Mathlib.Data.List.Nodup
import Mathlib.Data.List.Pairwise
import Mathlib.Logic.Relation

namespace LogLayout.Config

/-!
# Files that include files

A line of a file names another file, seen from the folder that the naming file lies in; a
line that leads nowhere includes nothing.  The included files of a file stand in the order
of its lines, and a file stands there once for every line that names it, so that a second
line with the same file is not lost.

From one file on, the includes may form a tree, or they may not: a file may be named by two
lines, and there may be a cycle.  The order in which a tree is read is that of a walk, which
visits a file before the files that it includes, and these line by line.
-/

/-- The settings that a file holds itself, if it can be read and holds settings. -/
def ownSettings? (environment : Environment) (place : Place) : Option Config :=
  match environment.files.textAt place with
  | .ok text => parse? text
  | .error _ => none

/-- The places that paths lead to from a folder.  A path that leads nowhere is left out. -/
def locateAll (environment : Environment) (folder : Place) (sources : List String) :
    List Place :=
  sources.filterMap fun source =>
    (environment.files.locate folder (environment.expandTilde source)).toOption

theorem locateAll_absent {environment : Environment} {folder : Place} {source : String}
    {flaw : FileFlaw} (others : List String)
    (absent : environment.files.locate folder (environment.expandTilde source) = .error flaw) :
    locateAll environment folder (source :: others) = locateAll environment folder others := by
  rw [locateAll, List.filterMap_cons_none (by rw [absent]; rfl), locateAll]

/-- The file at the end of a path stands before those of the further paths. -/
theorem locateAll_located {environment : Environment} {folder place : Place} {source : String}
    (others : List String)
    (located : environment.files.locate folder (environment.expandTilde source) = .ok place) :
    locateAll environment folder (source :: others) =
      place :: locateAll environment folder others := by
  rw [locateAll, List.filterMap_cons_some (by rw [located]; rfl), locateAll]

/-- The places that the lines of a file name, in the order of the lines. -/
def includes (environment : Environment) (place : Place) : List Place :=
  match environment.files.textAt place with
  | .ok text => locateAll environment place.dropLast (extractSources text).sources
  | .error _ => []

/-- Some line of the first file names the second. -/
def Includes (environment : Environment) (place included : Place) : Prop :=
  included ∈ includes environment place

instance (environment : Environment) (place included : Place) :
    Decidable (Includes environment place included) :=
  inferInstanceAs (Decidable (included ∈ includes environment place))

/-- The second file is the first, or is included from it through any number of files. -/
abbrev Reaches (environment : Environment) : Place → Place → Prop :=
  Relation.ReflTransGen (Includes environment)

/-- A file that can be reached from the root leads back to itself. -/
def HasCycle (environment : Environment) (root : Place) : Prop :=
  ∃ place, Reaches environment root place ∧
    Relation.TransGen (Includes environment) place place

/-- The includes form a tree: no line names the root, and no two lines name the same file.
A line is told by the file that it stands in and by its number there. -/
structure TreeShaped (environment : Environment) (root : Place) : Prop where
  rootless : ∀ place, Reaches environment root place → root ∉ includes environment place
  single : ∀ first second place, Reaches environment root first →
    Reaches environment root second → ∀ line other : Nat,
      (includes environment first)[line]? = some place →
        (includes environment second)[other]? = some place → first = second ∧ line = other

/-- An order in which files are visited depth first: after a file come the files that it
includes, with all that they include, and then the files that were pending behind it. -/
inductive Walk (environment : Environment) : List Place → List Place → Prop
  | done : Walk environment [] []
  | visit {place : Place} {pending inside others : List Place} :
    Walk environment (includes environment place) inside → Walk environment pending others →
      Walk environment (place :: pending) (place :: (inside ++ others))

variable {environment : Environment}

/-- An included file is what a line of the including file aims at, a relative path from the
folder that the including file lies in. -/
theorem Includes.aimed {place included : Place} (named : Includes environment place included) :
    ∃ text, environment.files.textAt place = .ok text ∧
      ∃ source ∈ (extractSources text).sources,
        included = FileTree.aimAt place.dropLast (environment.expandTilde source) := by
  rw [Includes, includes] at named
  split at named
  next text found =>
    obtain ⟨source, member, located⟩ := List.mem_filterMap.mp named
    cases outcome : environment.files.locate place.dropLast
        (environment.expandTilde source) with
    | error flaw =>
        rw [outcome] at located
        cases located
    | ok target =>
        rw [outcome] at located
        obtain rfl : target = included := Option.some.inj located
        exact ⟨text, found, source, member, FileTree.aimAt_of_locate outcome⟩
  next => cases named

theorem Includes.mem_places {place included : Place}
    (named : Includes environment place included) : place ∈ environment.files.places := by
  obtain ⟨text, found, -⟩ := named.aimed
  exact FileTree.mem_places_of_textAt found

/-- Where the files include one another only, all that can be reached are among them. -/
theorem useful_of_places (environment : Environment) {root : Place}
    (there : root ∈ environment.files.places)
    (closed : ∀ place ∈ environment.files.places, ∀ included ∈ includes environment place,
      included ∈ environment.files.places)
    (useful : ∀ place ∈ environment.files.places, (ownSettings? environment place).isSome) :
    ∀ place, Reaches environment root place → (ownSettings? environment place).isSome := by
  intro place reached
  refine useful place ?_
  induction reached with
  | refl => exact there
  | tail _ named inductionHypothesis => exact closed _ inductionHypothesis _ named

/-! ## Walks -/

namespace Walk

/-- Walks from some files and then from others are one walk. -/
theorem append {first second firstOrder secondOrder : List Place}
    (before : Walk environment first firstOrder) (behind : Walk environment second secondOrder) :
    Walk environment (first ++ second) (firstOrder ++ secondOrder) := by
  induction before with
  | done => exact behind
  | visit inside others insideHypothesis othersHypothesis =>
      rw [List.cons_append, List.cons_append, List.append_assoc]
      exact .visit inside othersHypothesis

/-- A visit to a file whose included files are known. -/
theorem enter {place : Place} (named : List Place) {pending inside others : List Place}
    (includesNamed : includes environment place = named)
    (walk : Walk environment named inside) (othersWalk : Walk environment pending others) :
    Walk environment (place :: pending) (place :: (inside ++ others)) :=
  .visit (includesNamed ▸ walk) othersWalk

/-- A walk visits what it starts from and what the visited files include, nothing else, and
each as often as it is named. -/
theorem perm {starts order : List Place} (walk : Walk environment starts order) :
    order.Perm (starts ++ order.flatMap (includes environment)) := by
  induction walk with
  | done => exact List.Perm.nil
  | @visit place pending inside others _ _ insideHypothesis othersHypothesis =>
      rw [List.perm_iff_count] at insideHypothesis othersHypothesis ⊢
      intro visited
      have countInside := insideHypothesis visited
      have countOthers := othersHypothesis visited
      rw [List.count_append] at countInside countOthers
      rw [List.flatMap_cons, List.flatMap_append, List.cons_append, List.count_cons,
        List.count_cons]
      simp only [List.count_append]
      omega

theorem mem_iff {starts order : List Place} (walk : Walk environment starts order)
    (place : Place) :
    place ∈ order ↔ ∃ start ∈ starts, Reaches environment start place := by
  induction walk with
  | done => simp only [List.not_mem_nil, false_and, exists_false]
  | @visit start pending inside others _ _ insideHypothesis othersHypothesis =>
      rw [List.mem_cons, List.mem_append, insideHypothesis, othersHypothesis,
        List.exists_mem_cons_iff, ← or_assoc]
      refine or_congr_left ?_
      rw [Reaches, Relation.ReflTransGen.cases_head_iff, eq_comm]
      rfl

/-- There is one order only to visit files in. -/
theorem unique {starts order other : List Place} (walk : Walk environment starts order)
    (otherWalk : Walk environment starts other) : order = other := by
  induction walk generalizing other with
  | done =>
      cases otherWalk
      rfl
  | visit inside others insideHypothesis othersHypothesis =>
      cases otherWalk with
      | visit otherInside otherOthers =>
          rw [insideHypothesis otherInside, othersHypothesis otherOthers]

/-- Where a walk from the root visits no file twice, the includes form a tree. -/
theorem treeShaped {root : Place} {order : List Place} (walk : Walk environment [root] order)
    (nodup : order.Nodup) : TreeShaped environment root := by
  have named : (root :: order.flatMap (includes environment)).Nodup :=
    walk.perm.nodup_iff.mp nodup
  obtain ⟨rootNotNamed, namedNodup⟩ := List.nodup_cons.mp named
  obtain ⟨eachNodup, apart⟩ := List.nodup_flatMap.mp namedNodup
  have visited {place : Place} (reached : Reaches environment root place) : place ∈ order :=
    (walk.mem_iff place).mpr ⟨root, List.mem_singleton_self root, reached⟩
  constructor
  · intro place reached included
    exact rootNotNamed (List.mem_flatMap_of_mem (visited reached) included)
  · intro first second place firstReached secondReached line other atLine atOther
    have firstIncludes := List.mem_of_getElem? atLine
    have secondIncludes := List.mem_of_getElem? atOther
    have same : first = second := by
      by_contra different
      have : Std.Symm (Function.onFun List.Disjoint (includes environment)) :=
        ⟨fun _ _ disjoint _ inSecond inFirst => disjoint inFirst inSecond⟩
      exact apart.forall (visited firstReached) (visited secondReached) different
        firstIncludes secondIncludes
    subst same
    refine ⟨rfl, ?_⟩
    obtain ⟨inRange, -⟩ := List.getElem?_eq_some_iff.mp atLine
    exact (List.getElem?_inj inRange (eachNodup first (visited firstReached))).mp
      (atLine.trans atOther.symm)

end Walk

theorem not_hasCycle_of_rank (rank : Place → Nat)
    (rising : ∀ place ∈ environment.files.places, ∀ included ∈ includes environment place,
      rank place < rank included) (root : Place) : ¬HasCycle environment root := by
  rintro ⟨place, -, cycle⟩
  have higher {first last : Place}
      (chain : Relation.TransGen (Includes environment) first last) :
      rank first < rank last := by
    induction chain with
    | single named => exact rising _ named.mem_places _ named
    | tail _ named inductionHypothesis =>
        exact Nat.lt_trans inductionHypothesis (rising _ named.mem_places _ named)
  exact Nat.lt_irrefl _ (higher cycle)

/-! ## Trees -/

namespace TreeShaped

variable {root : Place}

theorem parent_unique (tree : TreeShaped environment root) {first second place : Place}
    (firstReached : Reaches environment root first)
    (secondReached : Reaches environment root second)
    (firstIncludes : Includes environment first place)
    (secondIncludes : Includes environment second place) : first = second := by
  obtain ⟨line, atLine⟩ := List.mem_iff_getElem?.mp firstIncludes
  obtain ⟨other, atOther⟩ := List.mem_iff_getElem?.mp secondIncludes
  exact (tree.single first second place firstReached secondReached line other atLine atOther).1

/-- The root is not included again, however many files lie between. -/
theorem not_reaches_root (tree : TreeShaped environment root) {child : Place}
    (child_included : Includes environment root child) : ¬Reaches environment child root := by
  intro back
  obtain ⟨place, reached, named⟩ :=
    Relation.TransGen.tail'_iff.mp (Relation.TransGen.head' child_included back)
  exact tree.rootless place reached named

/-- No file of a tree is on a cycle.  The walk to a file on a cycle would enter the cycle by
the line that the cycle itself goes through. -/
theorem not_hasCycle (tree : TreeShaped environment root) : ¬HasCycle environment root := by
  rintro ⟨place, reached, cycle⟩
  induction reached with
  | refl =>
      obtain ⟨child, named, back⟩ := Relation.TransGen.head'_iff.mp cycle
      exact tree.not_reaches_root named back
  | @tail parent place parentReached parentIncludes inductionHypothesis =>
      obtain ⟨last, around, lastIncludes⟩ := Relation.TransGen.tail'_iff.mp cycle
      have placeReached := parentReached.tail parentIncludes
      have same : last = parent :=
        tree.parent_unique (placeReached.trans around) parentReached lastIncludes parentIncludes
      subst same
      exact inductionHypothesis (Relation.TransGen.head' parentIncludes around)

/-- What an included file leads to forms a tree too. -/
theorem included (tree : TreeShaped environment root) {child : Place}
    (named : Includes environment root child) : TreeShaped environment child := by
  have fromRoot {place : Place} (reached : Reaches environment child place) :
      Reaches environment root place := reached.head named
  constructor
  · intro place reached again
    have same : place = root :=
      tree.parent_unique (fromRoot reached) .refl again named
    exact tree.not_reaches_root named (same ▸ reached)
  · intro first second place firstReached secondReached
    exact tree.single first second place (fromRoot firstReached) (fromRoot secondReached)

/-- An included file is not reached from another file that is included beside it. -/
theorem not_reaches_sibling (tree : TreeShaped environment root) {first second : Place}
    (firstNamed : Includes environment root first)
    (secondNamed : Includes environment root second) (different : first ≠ second) :
    ¬Reaches environment second first := by
  intro reached
  rcases reached.cases_tail with same | ⟨parent, parentReached, parentIncludes⟩
  · exact different same
  · have same : parent = root := tree.parent_unique (parentReached.head secondNamed) .refl
      parentIncludes firstNamed
    exact tree.not_reaches_root secondNamed (same ▸ parentReached)

/-- No file is reached through two lines of the root. -/
theorem lines_apart (tree : TreeShaped environment root) :
    (includes environment root).Pairwise fun first second =>
      ∀ place, Reaches environment first place → ¬Reaches environment second place := by
  rw [List.pairwise_iff_getElem]
  intro line other lineInRange otherInRange before
  set first := (includes environment root)[line] with firstIs
  set second := (includes environment root)[other] with secondIs
  have firstNamed : Includes environment root first := List.getElem_mem lineInRange
  have secondNamed : Includes environment root second := List.getElem_mem otherInRange
  have different : first ≠ second := by
    intro same
    have sameLine := (tree.single root root first .refl .refl line other
      (List.getElem?_eq_getElem lineInRange)
      (by rw [List.getElem?_eq_getElem otherInRange, same])).2
    omega
  intro place fromFirst
  induction fromFirst with
  | refl => exact tree.not_reaches_sibling firstNamed secondNamed different
  | @tail parent place parentReached parentIncludes inductionHypothesis =>
      intro fromSecond
      rcases fromSecond.cases_tail with same | ⟨last, lastReached, lastIncludes⟩
      · subst same
        exact tree.not_reaches_sibling secondNamed firstNamed different.symm
          (parentReached.tail parentIncludes)
      · have same : parent = last := tree.parent_unique (parentReached.head firstNamed)
          (lastReached.head secondNamed) parentIncludes lastIncludes
        exact inductionHypothesis (same ▸ lastReached)

end TreeShaped
end LogLayout.Config
