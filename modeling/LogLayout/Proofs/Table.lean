import LogLayout.Table

namespace LogLayout

/-!
# Tables as sets of entries

A table answers a look-up with the only entry that has the key.  So the entries are
exactly what look-ups find, the keys are listed once each, and a table is known by its
look-ups: this is how laws about whole tables are shown, such as those of `union`.
-/

namespace Table

variable {Value : Type u}

theorem mem_entries_iff (table : Table Value) (key : String) (value : Value) :
    (key, value) ∈ table.entries ↔ table.get? key = some value := by
  rcases table with ⟨entries, rising⟩
  change _ ↔ lookup key entries = some value
  induction entries with
  | nil => simp only [List.not_mem_nil, lookup, reduceCtorEq]
  | cons head rest inductionHypothesis =>
      rcases head with ⟨name, first⟩
      rcases List.pairwise_cons.mp rising with ⟨before, restRising⟩
      rw [List.mem_cons, lookup, inductionHypothesis restRising]
      by_cases same : name = key
      · subst same
        rw [if_pos rfl, Option.some.injEq, Prod.mk.injEq]
        constructor
        · rintro (⟨-, rfl⟩ | later)
          · rfl
          · have member := (inductionHypothesis restRising).mpr later
            exact absurd (before _ member) (String.lt_irrefl name)
        · exact fun found => .inl ⟨rfl, found.symm⟩
      · rw [if_neg same, Prod.mk.injEq]
        exact ⟨fun either => either.resolve_left fun here => same here.1.symm, .inr⟩

theorem mem_keys_iff (table : Table Value) (key : String) :
    key ∈ table.keys ↔ table.contains key = true := by
  rw [keys, List.mem_map, contains, Option.isSome_iff_exists]
  constructor
  · rintro ⟨⟨name, value⟩, member, rfl⟩
    exact ⟨value, (table.mem_entries_iff name value).mp member⟩
  · rintro ⟨value, found⟩
    exact ⟨(key, value), (table.mem_entries_iff key value).mpr found, rfl⟩

theorem pairwise_keys (table : Table Value) : table.keys.Pairwise (· < ·) :=
  List.pairwise_map.mpr table.rising

theorem nodup_keys (table : Table Value) : table.keys.Nodup :=
  table.pairwise_keys.imp fun {first second} (before : first < second)
    (same : first = second) => String.lt_irrefl second (same ▸ before)

theorem contains_insert (table : Table Value) (key other : String) (value : Value) :
    (table.insert key value).contains other = true ↔
      key = other ∨ table.contains other = true := by
  rw [contains, get?_insert, contains]
  by_cases same : key = other
  · rw [if_pos same]
    exact iff_of_true rfl (.inl same)
  · rw [if_neg same]
    exact ⟨.inr, fun either => either.resolve_left same⟩

theorem contains_erase (table : Table Value) (key other : String) :
    (table.erase key).contains other = true ↔
      key ≠ other ∧ table.contains other = true := by
  rw [contains, get?_erase, contains]
  by_cases same : key = other
  · rw [if_pos same]
    exact iff_of_false Bool.false_ne_true fun both => both.1 same
  · rw [if_neg same]
    exact ⟨fun there => ⟨same, there⟩, And.right⟩

/-- Tables that answer every look-up alike are equal. -/
theorem ext_get? {first second : Table Value}
    (alike : ∀ key, first.get? key = second.get? key) : first = second := by
  have notReflexive (entry : String × Value) : ¬entry.1 < entry.1 :=
    String.lt_irrefl entry.1
  have nodup (table : Table Value) : table.entries.Nodup :=
    table.rising.imp fun {entry other} (before : entry.1 < other.1)
      (same : entry = other) => notReflexive other (same ▸ before)
  have sameEntries : first.entries.Perm second.entries :=
    (List.perm_ext_iff_of_nodup (nodup first) (nodup second)).mpr fun entry => by
      rw [mem_entries_iff, mem_entries_iff, alike]
  have equal : first.entries = second.entries :=
    sameEntries.eq_of_pairwise
      (fun entry other _ _ before behind =>
        absurd (String.lt_trans before behind) (notReflexive entry))
      first.rising second.rising
  cases first
  cases second
  exact (mk.injEq ..).mpr equal

theorem get?_union (first second : Table Value) (key : String) :
    (first.union second).get? key = (first.get? key).or (second.get? key) := by
  unfold union
  rw [show second.get? key = lookup key second.entries from rfl]
  induction second.entries generalizing first with
  | nil => rw [List.foldl_nil, lookup, Option.or_none]
  | cons head rest inductionHypothesis =>
      rcases head with ⟨name, value⟩
      rw [List.foldl_cons, inductionHypothesis, lookup]
      by_cases same : name = key
      · subst same
        cases found : first.get? name with
        | none => simp [contains, found]
        | some old => simp [contains, found]
      · by_cases there : first.contains name = true
        · simp [there, same]
        · simp [there, same]

/-- A table made of entries with different keys has just these entries. -/
theorem mem_entries_ofList_iff {entries : List (String × Value)}
    (distinct : (entries.map Prod.fst).Nodup) (entry : String × Value) :
    entry ∈ (ofList entries).entries ↔ entry ∈ entries := by
  rcases entry with ⟨key, value⟩
  have inserted (table : Table Value)
      (apart : ∀ entry ∈ entries, table.get? entry.1 = none) :
      (entries.foldl (fun table entry => table.insert entry.1 entry.2) table).get? key =
          some value ↔ (key, value) ∈ entries ∨ table.get? key = some value := by
    induction entries generalizing table with
    | nil => simp only [List.foldl_nil, List.not_mem_nil, false_or]
    | cons head rest inductionHypothesis =>
        rcases List.nodup_cons.mp distinct with ⟨once, restDistinct⟩
        rcases List.forall_mem_cons.mp apart with ⟨headApart, restApart⟩
        rw [List.foldl_cons, inductionHypothesis restDistinct, get?_insert, List.mem_cons]
        · by_cases same : head.1 = key
          · subst same
            rw [if_pos rfl, headApart, Option.some.injEq, Prod.mk.injEq]
            rw [or_comm]
            simp only [true_and, reduceCtorEq, or_false, eq_comm]
          · rw [if_neg same]
            have other : (key, value) ≠ head := fun equal => same (equal ▸ rfl)
            simp only [other, false_or]
        · intro entry member
          rw [get?_insert, if_neg, restApart entry member]
          exact fun same => once (List.mem_map.mpr ⟨entry, member, same.symm⟩)
  rw [mem_entries_iff]
  exact (inserted empty fun _ _ => rfl).trans (by simp only [get?_empty, reduceCtorEq, or_false])

/-- A table is made of its entries, in whatever order they are inserted. -/
theorem ofList_eq_of_perm {entries : List (String × Value)} {table : Table Value}
    (order : entries.Perm table.entries) : ofList entries = table := by
  have distinct : (entries.map Prod.fst).Nodup :=
    (order.map Prod.fst).nodup_iff.mpr table.nodup_keys
  refine ext_get? fun key => Option.ext fun value => ?_
  rw [← mem_entries_iff, ← mem_entries_iff, mem_entries_ofList_iff distinct, order.mem_iff]

/-- A table made of entries has for a key what the last entry with the key gives. -/
theorem get?_ofList (entries : List (String × Value)) (key : String) :
    (ofList entries).get? key =
      (entries.reverse.find? fun entry => entry.1 = key).map Prod.snd := by
  rw [ofList, List.foldl_eq_foldr_reverse]
  induction entries.reverse with
  | nil => rfl
  | cons last others inductionHypothesis =>
      rw [List.foldr_cons, get?_insert, inductionHypothesis, List.find?_cons]
      by_cases same : last.1 = key
      · rw [if_pos same, decide_eq_true same]
        rfl
      · rw [if_neg same, decide_eq_false same]

/-- A value in a table made of entries comes from an entry behind which the key does not
stand again. -/
theorem get?_ofList_eq_some_iff {entries : List (String × Value)} {key : String}
    {value : Value} :
    (ofList entries).get? key = some value ↔
      ∃ before after, entries = before ++ (key, value) :: after ∧
        ∀ entry ∈ after, entry.1 ≠ key := by
  rw [get?_ofList, Option.map_eq_some_iff]
  constructor
  · rintro ⟨⟨name, found⟩, first, rfl⟩
    obtain ⟨same, after, before, split, others⟩ := List.find?_eq_some_iff_append.mp first
    obtain rfl : name = key := of_decide_eq_true same
    refine ⟨before.reverse, after.reverse, ?_, fun entry member => ?_⟩
    · rw [← List.reverse_reverse entries, split, List.reverse_append, List.reverse_cons,
        List.append_assoc, List.singleton_append]
    · intro equal
      have other := others entry (List.mem_reverse.mp member)
      rw [decide_eq_true equal] at other
      cases other
  · rintro ⟨before, after, rfl, others⟩
    refine ⟨(key, value), ?_, rfl⟩
    apply List.find?_eq_some_iff_append.mpr
    refine ⟨decide_eq_true rfl, after.reverse, before.reverse, ?_, fun entry member => ?_⟩
    · rw [List.reverse_append, List.reverse_cons, List.append_assoc, List.singleton_append]
    · rw [decide_eq_false (others entry (List.mem_reverse.mp member))]
      rfl

theorem union_assoc (first second third : Table Value) :
    (first.union second).union third = first.union (second.union third) :=
  ext_get? fun key => by simp only [get?_union, Option.or_assoc]

theorem union_self (table : Table Value) : table.union table = table := by
  apply ext_get?
  intro key
  rw [get?_union, Option.or_self]

end Table
end LogLayout
