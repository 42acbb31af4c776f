import LogLayout.Config
import LogLayout.Proofs.Table

namespace LogLayout.Config

/-!
# Adding settings to settings

`merge` adds what is not there yet, so the settings that stand first win.  Added one after
another, settings answer for every alias and application as the first of them that has one;
everything else stays as in the settings that were added to.
-/

theorem merge_assoc (first second third : Config) :
    (first.merge second).merge third = first.merge (second.merge third) := by
  unfold merge
  rw [Table.union_assoc, Table.union_assoc]

/-- Further settings may be gathered before they are added. -/
theorem merge_foldl_merge (config first : Config) (others : List Config) :
    config.merge (others.foldl merge first) = (first :: others).foldl merge config := by
  rw [List.foldl_cons]
  induction others generalizing first with
  | nil => rfl
  | cons second others inductionHypothesis =>
      rw [List.foldl_cons, List.foldl_cons, merge_assoc, inductionHypothesis]

theorem foldl_merge_kept (config : Config) (others : List Config) :
    (others.foldl merge config).formatter = config.formatter ∧
      (others.foldl merge config).context = config.context ∧
      (others.foldl merge config).noticeLevel = config.noticeLevel := by
  induction others generalizing config with
  | nil => exact ⟨rfl, rfl, rfl⟩
  | cons other others inductionHypothesis =>
      exact inductionHypothesis (config.merge other)

/-- What is looked up in a table that merging unites is found in the first settings that
have it. -/
theorem get?_foldl_merge {Value : Type} (table : Config → Table Value)
    (united : ∀ config other, table (merge config other) = (table config).union (table other))
    (config : Config) (others : List Config) (name : String) :
    (table (others.foldl merge config)).get? name =
      (config :: others).findSome? fun settings => (table settings).get? name := by
  induction others generalizing config with
  | nil => cases found : (table config).get? name <;> simp [found]
  | cons other others inductionHypothesis =>
      rw [List.foldl_cons, inductionHypothesis, List.findSome?_cons, united, Table.get?_union,
        List.findSome?_cons, List.findSome?_cons]
      cases (table config).get? name <;> rfl

end LogLayout.Config
