import SqlAssembly.Proofs.Statement.ChangeHistory
import SqlAssembly.Proofs.Statement.SelectHistory

/-!
# The faults of a statement as a function of its history

Some faults are noted while a statement is assembled, others are found when it is written.  Both
are counted here from the steps alone.

* `History` — how a statement of any kind came about.
* `History.tables`, `History.targets` — the tables that were given, and those of them that were
  meant for the statement as a whole.
* `History.account` — the faults.
* `History.sql_statement` — a statement is written exactly when its account is empty.
-/

set_option autoImplicit false

namespace SqlAssembly

/-- How a statement came about: what it started with and the steps after that. -/
inductive History where
  | select (steps : List Select.Step)
  | insert (columns : Arguments String) (steps : List Insert.Step)
  /-- An UPDATE may start without a table. -/
  | update (table : Option Table) (steps : List Update.Step)
  | delete (table : Table) (steps : List Delete.Step)
  | truncate (table : Table)

namespace History

def statement : History → Statement
  | select steps => .select (Select.assemble steps)
  | insert columns steps => .insert (Insert.assemble columns steps)
  | update table steps => .update (Update.assemble (table.elim {} Update.start) steps)
  | delete table steps => .delete (Delete.assemble table steps)
  | truncate table => .truncate (Truncate.start table)

/-- Every table that was given, whatever for. -/
def tables : History → List Table
  | select steps => steps.filterMap Select.Step.table?
  | insert _ steps => steps.filterMap Insert.Step.table?
  | update table steps => table.toList ++ steps.filterMap Update.Step.table?
  | delete table _ => [table]
  | truncate table => [table]

/-- The tables that the statement was to work on, which leaves out the joined ones. -/
def targets : History → List Table
  | select steps => steps.filterMap Select.Step.source?
  | other => other.tables

/-- One fault for each table without a name. -/
def refusals (h : History) : List Fault :=
  List.replicate (h.tables.countP fun table => !table.isNamed) .unnamedTable

/-- Whether there was no target at all, or the last one has no name. -/
def lacksTarget (h : History) : Bool := h.targets.getLast?.all fun table => !table.isNamed

/-- The faults in the order in which they are reported. -/
def account (h : History) : List Fault :=
  match h with
  | select _ => h.refusals ++ if h.lacksTarget then [.noTable] else []
  | insert _ steps =>
    h.refusals ++ (if h.lacksTarget then [.noTable] else []) ++
      if ∀ row ∈ steps.filterMap Insert.Step.row?, row = [] then [.noRows] else []
  | update _ steps =>
    if h.lacksTarget then [.noTable]
    else h.refusals ++ if Update.finalAssignments steps = [] then [.noAssignments] else []
  | delete _ _ => h.refusals
  | truncate _ => h.refusals

/-! ## The target -/

/-- The target that the history leaves. -/
def target (h : History) : Target :=
  { table := h.targets.getLast?.filter Table.isNamed
    refused := h.tables.countP fun table => !table.isNamed }

theorem refusals_target (h : History) : h.target.refusals = h.refusals := rfl

theorem isNone_target (h : History) : h.target.table.isNone = h.lacksTarget := by
  show (h.targets.getLast?.filter Table.isNamed).isNone = _
  unfold lacksTarget
  cases h.targets.getLast? with
  | none => rfl
  | some table => by_cases named : table.isNamed = true <;> simp [named, Option.filter]

theorem missing_target (h : History) :
    h.target.missing = if h.lacksTarget then [.noTable] else [] := by
  rw [Target.missing, isNone_target]

theorem target_select (steps : List Select.Step) :
    (Select.assemble steps).target = (select steps).target := by
  rw [Select.assemble_eq]
  rfl

theorem target_insert (columns : Arguments String) (steps : List Insert.Step) :
    (Insert.assemble columns steps).target = (insert columns steps).target := by
  rw [Insert.target_assemble, Target.foldl_set]
  rfl

theorem target_update (table : Option Table) (steps : List Update.Step) :
    (Update.assemble (table.elim {} Update.start) steps).target = (update table steps).target := by
  have start : (table.elim {} Update.start).target = table.toList.foldl Target.set {} := by
    cases table <;> rfl
  rw [Update.target_assemble, start, ← List.foldl_append, Target.foldl_set]
  rfl

theorem target_delete (table : Table) (steps : List Delete.Step) :
    (Delete.assemble table steps).target = (delete table steps).target := by
  rw [Delete.target_assemble]
  exact Target.foldl_set [table]

theorem target_truncate (table : Table) :
    (Truncate.start table).target = (truncate table).target := Target.foldl_set [table]

/-! ## The account -/

theorem isEmpty_rows (columns : Arguments String) (steps : List Insert.Step) :
    (Insert.assemble columns steps).rows.isEmpty =
      decide (∀ row ∈ steps.filterMap Insert.Step.row?, row = []) := by
  rw [Insert.rows_assemble, Bool.eq_iff_iff, List.isEmpty_iff, List.filter_eq_nil_iff,
    decide_eq_true_iff]
  refine forall₂_congr ?_
  intro row _
  cases row <;> simp

theorem isEmpty_assignments (table : Option Table) (steps : List Update.Step) :
    (Update.assemble (table.elim {} Update.start) steps).assignments.isEmpty =
      decide (Update.finalAssignments steps = []) := by
  have start : (table.elim {} Update.start).assignments = [] := by cases table <;> rfl
  rw [Update.assignments_assemble start, Bool.eq_iff_iff, List.isEmpty_iff,
    Assignment.putAll_nil_eq_nil_iff, decide_eq_true_iff]

/-- The faults of a statement are those on its account. -/
theorem faults_statement (h : History) : h.statement.faults = h.account := by
  cases h with
  | select steps =>
    show (Select.assemble steps).faults = _
    rw [Select.faults, target_select, refusals_target, missing_target]
    rfl
  | insert columns steps =>
    show (Insert.assemble columns steps).faults = _
    rw [Insert.faults, target_insert, refusals_target, missing_target, isEmpty_rows]
    simp only [decide_eq_true_eq, account]
  | update table steps =>
    show (Update.assemble (table.elim {} Update.start) steps).faults = _
    rw [Update.faults, target_update, refusals_target, isNone_target, isEmpty_assignments]
    simp only [decide_eq_true_eq, account]
  | delete table steps =>
    show (Delete.assemble table steps).target.refusals = _
    rw [target_delete, refusals_target]
    rfl
  | truncate table =>
    show (Truncate.start table).target.refusals = _
    rw [target_truncate, refusals_target]
    rfl

/-- **A statement and its account.**  It is written when nothing is on the account; a single fault
is reported as it is and several are reported together, in their order. -/
theorem sql_statement (h : History) :
    h.statement.sql =
      match h.account with
      | [] => .ok (h.statement.body ++ ";")
      | [fault] => .error fault
      | faults => .error (.several faults) := by
  rw [Statement.sql, faults_statement, conclude]
  match h.account with
  | [] => rfl
  | [_] => rfl
  | _ :: _ :: _ => rfl

end History

end SqlAssembly
