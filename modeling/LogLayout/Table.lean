namespace LogLayout

/-!
Finite tables keyed by text.

The entries of a table stand in strictly rising order of their keys, by code
point.  So a table lists its keys once each and sorted, and two tables that
answer every look-up alike are equal.
-/

/-- A finite map from texts, kept in strictly rising order of its keys. -/
structure Table (Value : Type u) where
  entries : List (String × Value)
  rising : entries.Pairwise (fun first second => first.1 < second.1)

namespace Table

variable {Value : Type u}

def empty : Table Value := ⟨[], .nil⟩

def lookup (key : String) : List (String × Value) → Option Value
  | [] => none
  | (name, value) :: rest => if name = key then some value else lookup key rest

/-- Put an entry at its place, in place of one with the same key. -/
def place (key : String) (value : Value) : List (String × Value) → List (String × Value)
  | [] => [(key, value)]
  | (name, old) :: rest =>
      if key < name then (key, value) :: (name, old) :: rest
      else if key = name then (key, value) :: rest
      else (name, old) :: place key value rest

theorem mem_place {key : String} {value : Value} {entries : List (String × Value)}
    {entry : String × Value} (member : entry ∈ place key value entries) :
    entry = (key, value) ∨ entry ∈ entries := by
  induction entries with
  | nil => simpa [place] using member
  | cons head rest inductionHypothesis =>
      rcases head with ⟨name, old⟩
      unfold place at member
      split at member
      · rcases List.mem_cons.mp member with same | old
        · exact .inl same
        · exact .inr old
      · split at member
        · rcases List.mem_cons.mp member with same | old
          · exact .inl same
          · exact .inr (List.mem_cons_of_mem _ old)
        · rcases List.mem_cons.mp member with same | later
          · exact .inr (same ▸ List.mem_cons_self)
          · rcases inductionHypothesis later with same | old
            · exact .inl same
            · exact .inr (List.mem_cons_of_mem _ old)

theorem rising_place (key : String) (value : Value) {entries : List (String × Value)}
    (rising : entries.Pairwise (fun first second => first.1 < second.1)) :
    (place key value entries).Pairwise (fun first second => first.1 < second.1) := by
  induction entries with
  | nil => exact List.pairwise_singleton _ _
  | cons head rest inductionHypothesis =>
      rcases head with ⟨name, old⟩
      have split := List.pairwise_cons.mp rising
      unfold place
      split
      next before =>
        refine List.pairwise_cons.mpr ⟨fun entry member => ?_, rising⟩
        rcases List.mem_cons.mp member with same | later
        · exact same ▸ before
        · exact String.lt_trans before (split.1 entry later)
      next notBefore =>
        split
        next same =>
          subst same
          exact List.pairwise_cons.mpr ⟨fun entry member => split.1 entry member, split.2⟩
        next different =>
          refine List.pairwise_cons.mpr ⟨fun entry member => ?_, inductionHypothesis split.2⟩
          rcases mem_place member with same | later
          · rw [same]
            rcases Decidable.em (name < key) with less | notLess
            · exact less
            · exact absurd (String.le_antisymm (String.not_lt.mp notLess)
                (String.not_lt.mp notBefore)) different
          · exact split.1 entry later

def get? (table : Table Value) (key : String) : Option Value :=
  lookup key table.entries

def contains (table : Table Value) (key : String) : Bool :=
  (table.get? key).isSome

def insert (table : Table Value) (key : String) (value : Value) : Table Value :=
  ⟨place key value table.entries, rising_place key value table.rising⟩

def erase (table : Table Value) (key : String) : Table Value :=
  ⟨table.entries.filter (fun entry => entry.1 ≠ key), table.rising.filter _⟩

def map {Result : Type v} (change : Value → Result) (table : Table Value) : Table Result :=
  ⟨table.entries.map fun entry => (entry.1, change entry.2),
    List.pairwise_map.mpr table.rising⟩

/-- The keys, in rising order. -/
def keys (table : Table Value) : List String :=
  table.entries.map Prod.fst

/-- The table of a list of entries, of which a later one replaces an earlier one
with the same key. -/
def ofList (entries : List (String × Value)) : Table Value :=
  entries.foldl (fun table entry => table.insert entry.1 entry.2) empty

/-- The first table, with the entries of the second whose keys it lacks. -/
def union (first second : Table Value) : Table Value :=
  second.entries.foldl
    (fun table entry => if table.contains entry.1 then table
      else table.insert entry.1 entry.2)
    first

@[simp] theorem get?_empty (key : String) : (empty : Table Value).get? key = none := rfl

private theorem lookup_place (key other : String) (value : Value)
    (entries : List (String × Value)) :
    lookup other (place key value entries) =
      if key = other then some value else lookup other entries := by
  induction entries with
  | nil => simp [place, lookup]
  | cons head rest inductionHypothesis =>
      rcases head with ⟨name, old⟩
      unfold place
      split
      · simp [lookup]
      · split
        next same =>
          subst same
          by_cases found : key = other <;> simp [lookup, found]
        next different =>
          simp only [lookup, inductionHypothesis]
          by_cases found : name = other
          · subst found
            simp [different]
          · simp [found]

/-- After an insertion the key has the new value and the others what they had. -/
@[simp] theorem get?_insert (table : Table Value) (key other : String) (value : Value) :
    (table.insert key value).get? other =
      if key = other then some value else table.get? other :=
  lookup_place key other value table.entries

private theorem lookup_filter (key other : String) (entries : List (String × Value)) :
    lookup other (entries.filter fun entry => entry.1 ≠ key) =
      if key = other then none else lookup other entries := by
  induction entries with
  | nil => simp [lookup]
  | cons head rest inductionHypothesis =>
      rcases head with ⟨name, old⟩
      by_cases erased : name = key
      · subst erased
        by_cases found : name = other <;> simp_all [lookup]
      · by_cases found : name = other
        · subst found
          simp [lookup, erased, Ne.symm erased]
        · simp_all [lookup]

/-- After a removal the key is gone and the others have what they had. -/
@[simp] theorem get?_erase (table : Table Value) (key other : String) :
    (table.erase key).get? other = if key = other then none else table.get? other :=
  lookup_filter key other table.entries

private theorem lookup_map {Result : Type v} (change : Value → Result) (key : String)
    (entries : List (String × Value)) :
    lookup key (entries.map fun entry => (entry.1, change entry.2)) =
      (lookup key entries).map change := by
  induction entries with
  | nil => rfl
  | cons head rest inductionHypothesis =>
      by_cases found : head.1 = key <;> simp_all [lookup]

@[simp] theorem get?_map {Result : Type v} (change : Value → Result)
    (table : Table Value) (key : String) :
    (table.map change).get? key = (table.get? key).map change :=
  lookup_map change key table.entries

end Table
end LogLayout
