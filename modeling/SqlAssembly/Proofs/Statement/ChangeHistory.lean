import SqlAssembly.Proofs.Statement.Latest
import SqlAssembly.Statement

/-!
# INSERT and UPDATE as functions of their history

* `Insert.target_assemble`, `Insert.columns_assemble`, `Insert.rows_assemble` — the table is set by
  the steps that name one, the columns stay, and every row with a value is kept.
* `Update.target_assemble`, `Update.assignments_assemble` — only the last assignment of all
  columns at once and what was assigned since it counts.
-/

set_option autoImplicit false

namespace SqlAssembly

/-! ## INSERT -/

namespace Insert

namespace Step

def table? : Step → Option Table
  | target table => some table
  | row _ => none

/-- The values of a row, possibly none. -/
def row? : Step → Option (List Value)
  | target _ => none
  | row values => some values.toList

end Step

variable (columns : Arguments String) (steps : List Step)

theorem assemble_concat (step : Step) :
    assemble columns (steps ++ [step]) = (assemble columns steps).apply step := List.foldl_append

theorem target_addRow (s : Insert) (values : Arguments Value) :
    (s.addRow values).target = s.target := by
  unfold addRow
  split <;> rfl

theorem target_assemble :
    (assemble columns steps).target = (steps.filterMap Step.table?).foldl Target.set {} := by
  refine foldl_apply_eq_foldl_filterMap target ?_ steps (start columns)
  intro s step
  cases step with
  | target table => rfl
  | row values => exact target_addRow s values

theorem columns_assemble : (assemble columns steps).columns = columns.toList := by
  induction steps using List.reverseRecOn with
  | nil => exact columns_start columns
  | append_singleton steps step ih =>
    rw [← ih, assemble_concat]
    cases step with
    | target table => rfl
    | row values =>
      show ((assemble columns steps).addRow values).columns = _
      unfold addRow
      split <;> rfl

/-- The rows are those with a value, in their order. -/
theorem rows_assemble :
    (assemble columns steps).rows =
      (steps.filterMap Step.row?).filter fun row => !row.isEmpty := by
  induction steps using List.reverseRecOn with
  | nil => rfl
  | append_singleton steps step ih =>
    rw [assemble_concat, List.filterMap_append, List.filter_append, ← ih]
    cases step with
    | target table => exact (List.append_nil _).symm
    | row values =>
      show ((assemble columns steps).addRow values).rows = _
      rw [rows_addRow]
      by_cases h : values.toList = [] <;> simp [Step.row?, h]

end Insert

/-! ## UPDATE -/

namespace Assignment

theorem put_ne_nil (new : Assignment) (assignments : List Assignment) :
    put new assignments ≠ [] := by
  cases assignments with
  | nil => exact List.cons_ne_nil _ _
  | cons a rest =>
    unfold put
    split <;> exact List.cons_ne_nil _ _

theorem putAll_append (present first second : List Assignment) :
    putAll present (first ++ second) = putAll (putAll present first) second :=
  List.foldl_append

/-- Assigning something never leaves nothing assigned. -/
theorem putAll_nil_eq_nil_iff (news : List Assignment) : putAll [] news = [] ↔ news = [] := by
  constructor
  · intro h
    by_contra nonempty
    obtain ⟨front, last, rfl⟩ := List.eq_nil_or_concat' news |>.resolve_left nonempty
    rw [putAll_append] at h
    exact put_ne_nil last (putAll [] front) h
  · rintro rfl
    rfl

end Assignment

namespace Update

namespace Step

def table? : Step → Option Table
  | target table => some table
  | _ => none

/-- The assignments that replace all earlier ones. -/
def reset? : Step → Option (List Assignment)
  | assignAll assignments => some assignments
  | _ => none

/-- The assignment that comes to the earlier ones. -/
def added : Step → List Assignment
  | assign column value => [⟨column, value⟩]
  | _ => []

end Step

/-- The assignments of the last step that replaced them all, and those made since. -/
def finalAssignments (steps : List Step) : List Assignment :=
  latest Step.reset? Step.added steps

theorem assemble_concat (s : Update) (steps : List Step) (step : Step) :
    assemble s (steps ++ [step]) = (assemble s steps).apply step := List.foldl_append

theorem target_assemble (s : Update) (steps : List Step) :
    (assemble s steps).target = (steps.filterMap Step.table?).foldl Target.set s.target := by
  refine foldl_apply_eq_foldl_filterMap target ?_ steps s
  intro s step
  cases step <;> rfl

/-- What is assigned when nothing was at first. -/
theorem assignments_assemble {s : Update} (h : s.assignments = []) (steps : List Step) :
    (assemble s steps).assignments = Assignment.putAll [] (finalAssignments steps) := by
  induction steps using List.reverseRecOn with
  | nil => exact h
  | append_singleton steps step ih =>
    rw [assemble_concat, finalAssignments, latest_concat, ← finalAssignments]
    cases step with
    | target table => exact ih.trans (by simp [Step.reset?, Step.added])
    | restrict condition => exact ih.trans (by simp [Step.reset?, Step.added])
    | assignAll assignments => rfl
    | assign column value =>
      show Assignment.put ⟨column, value⟩ (assemble s steps).assignments = _
      rw [ih]
      exact (Assignment.putAll_append [] (finalAssignments steps) [⟨column, value⟩]).symm

end Update

end SqlAssembly
