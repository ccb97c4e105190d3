import Mathlib.Data.List.DropRight
import SqlAssembly.Statement.Clause

/-!
# What the last steps leave

Some steps of a run replace what was there and some add to it.

* `latest` — a list that some steps replace and others add to, read off the run.
* `Target.foldl_set` — the target of a statement after any tables were set.
-/

set_option autoImplicit false

namespace SqlAssembly

section

variable {Step α : Type} (reset? : Step → Option (List α)) (added : Step → List α)

/-- What the last replacing step put there, and what was added since. -/
def latest (steps : List Step) : List α :=
  (steps.filterMap reset?).getLast?.getD [] ++
    (steps.rtakeWhile fun step => (reset? step).isNone).flatMap added

theorem latest_concat (steps : List Step) (step : Step) :
    latest reset? added (steps ++ [step]) =
      (reset? step).getD (latest reset? added steps ++ added step) := by
  unfold latest
  cases h : reset? step with
  | none =>
    rw [List.rtakeWhile_concat_pos _ _ _ (by simp [h]), List.flatMap_append]
    simp [h]
  | some items =>
    rw [List.rtakeWhile_concat_neg _ _ _ (by simp [h])]
    simp [h]

/-- A part of the state that only some steps touch is left by these alone. -/
theorem foldl_apply_eq_foldl_filterMap {State Part Item : Type} {apply : State → Step → State}
    (part : State → Part) {item? : Step → Option Item} {put : Part → Item → Part}
    (h : ∀ s step, part (apply s step) = (item? step).elim (part s) (put (part s)))
    (steps : List Step) (s : State) :
    part (steps.foldl apply s) = (steps.filterMap item?).foldl put (part s) := by
  rw [List.foldl_filterMap]
  refine (List.foldl_hom part ?_).symm
  intro s step
  rw [h]
  cases item? step <;> rfl

end

/-- A target after tables were set: the last one, if it has a name, and a count of those
without. -/
theorem Target.foldl_set (tables : List Table) :
    tables.foldl Target.set {} =
      { table := tables.getLast?.filter Table.isNamed
        refused := tables.countP fun table => !table.isNamed } := by
  induction tables using List.reverseRecOn with
  | nil => rfl
  | append_singleton tables table ih =>
    rw [List.foldl_append, ih, List.foldl_cons, List.foldl_nil, List.getLast?_concat,
      List.countP_append]
    by_cases h : table.isNamed = true <;> simp [set, h, refuse, Option.filter]

end SqlAssembly
