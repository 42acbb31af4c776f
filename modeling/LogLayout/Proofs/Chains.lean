import LogLayout.Proofs.Table
import Mathlib.Data.Fintype.Card
import Mathlib.Data.Set.Finite.List
import Mathlib.Logic.Relation

namespace LogLayout

/-!
# Following links to their end

A link leads from a name to another one, as an entry of a table leads from its key to its
value.  From a name one follows the links for as long as there is one.  If links start at
finitely many names only and no chain of them comes back to where it began, this ends
somewhere, and if no name has two links it ends at one place only.
-/

variable {Name : Type} {link : Name → Name → Prop}

/-- No chain of links comes back to where it began; a name with a link to itself does. -/
def Acyclic (link : Name → Name → Prop) : Prop :=
  ∀ name, ¬Relation.TransGen link name name

/-- Following links from a name ends at another one, or at the name itself. -/
structure EndsAt (link : Name → Name → Prop) (name last : Name) : Prop where
  leads : Relation.ReflTransGen link name last
  final : ∀ next, ¬link last next

namespace EndsAt

/-- A name without a link is its own end. -/
theorem refl {name : Name} (final : ∀ next, ¬link name next) : EndsAt link name name :=
  ⟨.refl, final⟩

/-- A link in front leads to the same end. -/
theorem head {name next last : Name} (first : link name next) (ends : EndsAt link next last) :
    EndsAt link name last :=
  ⟨.head first ends.leads, ends.final⟩

/-- Where no name has two links, the first one does not change where following ends. -/
theorem tail (functional : Relator.RightUnique link) {name next last : Name}
    (first : link name next) (ends : EndsAt link name last) : EndsAt link next last := by
  rcases Relation.ReflTransGen.cases_head ends.leads with rfl | ⟨other, second, leads⟩
  · exact absurd first (ends.final next)
  · cases functional first second
    exact ⟨leads, ends.final⟩

/-- Where no name has two links there is no second end. -/
theorem unique (functional : Relator.RightUnique link) {name last other : Name}
    (ends : EndsAt link name last) (otherEnds : EndsAt link name other) : last = other := by
  rcases ends with ⟨leads, final⟩
  induction leads using Relation.ReflTransGen.head_induction_on with
  | refl =>
      rcases Relation.ReflTransGen.cases_head otherEnds.leads with same | ⟨next, first, -⟩
      · exact same
      · exact absurd first (final next)
  | head first _ inductionHypothesis =>
      exact inductionHypothesis (otherEnds.tail functional first)

end EndsAt

/-- Links that start at finitely many names and have no cycle lead to an end from everywhere.  The
induction goes along the names, each in front of those it leads to. -/
theorem Acyclic.exists_endsAt (acyclic : Acyclic link) (names : List Name)
    (within : ∀ {name next}, link name next → name ∈ names) (name : Name) :
    ∃ last, EndsAt link name last := by
  let behind (first second : {name // name ∈ names}) : Prop :=
    Relation.TransGen link second.1 first.1
  have : Finite {name // name ∈ names} := List.finite_toSet names
  have : IsTrans _ behind := ⟨fun _ _ _ earlier later => later.trans earlier⟩
  have : Std.Irrefl behind := ⟨fun place => acyclic place.1⟩
  have ends (place : {name // name ∈ names}) : ∃ last, EndsAt link place.1 last := by
    induction place using (Finite.wellFounded_of_trans_of_irrefl behind).induction with
    | _ place inductionHypothesis =>
        by_cases starts : ∃ next, link place.1 next
        · obtain ⟨next, first⟩ := starts
          by_cases listed : next ∈ names
          · obtain ⟨last, ends⟩ := inductionHypothesis ⟨next, listed⟩ (.single first)
            exact ⟨last, ends.head first⟩
          · exact ⟨next, (EndsAt.refl fun other second => listed (within second)).head first⟩
        · exact ⟨place.1, .refl (not_exists.mp starts)⟩
  by_cases listed : name ∈ names
  · exact ends ⟨name, listed⟩
  · exact ⟨name, .refl fun next first => listed (within first)⟩

/-- Fewer links have no cycle either. -/
theorem Acyclic.mono {fewer : Name → Name → Prop} (acyclic : Acyclic link)
    (within : ∀ name next, fewer name next → link name next) : Acyclic fewer :=
  fun name cycle => acyclic name (Relation.TransGen.mono within name name cycle)

theorem acyclic_of_rank (rank : Name → Nat)
    (falls : ∀ {name next}, link name next → rank next < rank name) : Acyclic link := by
  have fallsAlong {first last : Name} (chain : Relation.TransGen link first last) :
      rank last < rank first := by
    induction chain with
    | single only => exact falls only
    | tail _ next inductionHypothesis => exact (falls next).trans inductionHypothesis
  exact fun name cycle => (fallsAlong cycle).false

namespace Table

/-- An entry of a table of names leads from its key to its value. -/
def Links (table : Table String) (name next : String) : Prop := table.get? name = some next

theorem links_functional (table : Table String) : Relator.RightUnique table.Links :=
  fun _ _ _ first second => Option.some.inj (Eq.trans (Eq.symm first) second)

theorem not_links_of_free {table : Table String} {name : String} (free : table.get? name = none)
    (next : String) : ¬table.Links name next := by
  intro links
  exact Option.some_ne_none next (links.symm.trans free)

theorem mem_keys_of_links {table : Table String} {name next : String}
    (links : table.Links name next) : name ∈ table.keys :=
  List.mem_map_of_mem ((table.mem_entries_iff name next).mpr links)

/-- Following a table without cycles ends, from whatever name. -/
theorem exists_endsAt {table : Table String} (acyclic : Acyclic table.Links) (name : String) :
    ∃ last, EndsAt table.Links name last :=
  acyclic.exists_endsAt table.keys mem_keys_of_links name

/-- A table whose values rank lower than their keys has no cycle. -/
theorem acyclic_of_falls {table : Table String} (rank : String → Nat)
    (falls : ∀ entry ∈ table.entries, rank entry.2 < rank entry.1) : Acyclic table.Links :=
  acyclic_of_rank rank fun {name next} links =>
    falls (name, next) ((table.mem_entries_iff name next).mpr links)

end Table
end LogLayout
