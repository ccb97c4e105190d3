import SqlAssembly.Proofs.Statement.Latest
import SqlAssembly.Statement

/-!
# A SELECT as a function of its history

The steps of a SELECT may come in any order.  What they leave is given here without running them:
each clause by the steps that concern it.

* `finalColumns`, `finalTable`, `finalJoins`, `finalCondition`, `finalSortings` — the clauses.
* `assemble_eq` — running the steps leaves these.
* `written` — the statement clause by clause, each optional one with the space in front of it.
* `Step.concerns` — the clauses that a step has to do with; a dataset has to do with two.
* `body_assemble` — the text of a SELECT, and that steps for different clauses can change places.
-/

set_option autoImplicit false

namespace SqlAssembly.Select

/-! ## What a step brings -/

namespace Step

/-- The columns that replace all earlier ones. -/
def reset? : Step → Option (List String)
  | setColumns columns => some columns.toList
  | dataset d => some d.columns
  | _ => none

/-- The columns that come behind the earlier ones. -/
def added : Step → List String
  | addColumns columns => columns.toList
  | _ => []

/-- The table to read. -/
def source? : Step → Option Table
  | source table => some table
  | dataset d => some d.source
  | _ => none

def join? : Step → Option Join
  | join kind table conditions => some ⟨kind, table, conditions⟩
  | _ => none

/-- Any table, to read or to join. -/
def table? : Step → Option Table
  | source table => some table
  | dataset d => some d.source
  | join _ table _ => some table
  | _ => none

def condition? : Step → Option Condition
  | restrict condition => some condition
  | _ => none

def sorting? : Step → Option Sorting
  | sort columns direction =>
    if columns.toList = [] then none else some ⟨columns.toList, direction⟩
  | _ => none

end Step

/-! ## The clauses -/

/-- The columns of the last step that replaced them, and those added since. -/
def finalColumns (steps : List Step) : List String := latest Step.reset? Step.added steps

/-- The table given last, if it has a name. -/
def finalTable (steps : List Step) : Option Table :=
  (steps.filterMap Step.source?).getLast?.filter Table.isNamed

/-- The joins of tables with a name. -/
def finalJoins (steps : List Step) : List Join :=
  (steps.filterMap Step.join?).filter fun j => j.table.isNamed

def finalCondition (steps : List Step) : Option Condition :=
  (steps.filterMap Step.condition?).getLast?

def finalSortings (steps : List Step) : List Sorting := steps.filterMap Step.sorting?

/-- How many tables without a name were given. -/
def refusals (steps : List Step) : Nat :=
  (steps.filterMap Step.table?).countP fun table => !table.isNamed

variable (steps : List Step) (step : Step)

theorem finalColumns_concat :
    finalColumns (steps ++ [step]) = step.reset?.getD (finalColumns steps ++ step.added) :=
  latest_concat Step.reset? Step.added steps step

theorem finalTable_concat :
    finalTable (steps ++ [step]) =
      step.source?.elim (finalTable steps) (Option.guard Table.isNamed) := by
  unfold finalTable
  cases h : step.source? with
  | none => simp [h]
  | some table => simp [h, Option.filter, Option.guard]

theorem finalJoins_concat :
    finalJoins (steps ++ [step]) =
      finalJoins steps ++ (step.join?.filter fun j => j.table.isNamed).toList := by
  unfold finalJoins
  rw [List.filterMap_append, List.filter_append]
  cases h : step.join? with
  | none => simp [h]
  | some j => by_cases hj : j.table.isNamed = true <;> simp [h, hj, Option.filter]

theorem finalCondition_concat :
    finalCondition (steps ++ [step]) = step.condition?.or (finalCondition steps) := by
  unfold finalCondition
  cases h : step.condition? <;> simp [h]

theorem finalSortings_concat :
    finalSortings (steps ++ [step]) = finalSortings steps ++ step.sorting?.toList := by
  unfold finalSortings
  cases h : step.sorting? <;> simp [h]

theorem refusals_concat :
    refusals (steps ++ [step]) =
      refusals steps + (step.table?.toList.countP fun table => !table.isNamed) := by
  unfold refusals
  rw [List.filterMap_append, List.countP_append]
  cases h : step.table? <;> simp [h]

/-! ## Running the steps -/

theorem assemble_concat : assemble (steps ++ [step]) = (assemble steps).apply step := by
  rw [assemble_append]
  rfl

/-- What one step does, whatever was assembled before it. -/
theorem apply_eq (s : Select) :
    s.apply step =
      { columns := step.reset?.getD (s.columns ++ step.added)
        target :=
          { table := step.source?.elim s.target.table (Option.guard Table.isNamed)
            refused := s.target.refused + step.table?.toList.countP fun table => !table.isNamed }
        joins := s.joins ++ (step.join?.filter fun j => j.table.isNamed).toList
        condition := step.condition?.or s.condition
        sortings := s.sortings ++ step.sorting?.toList } := by
  unfold Step.reset? Step.added Step.source? Step.table? Step.join? Step.condition? Step.sorting?
  cases step with
  | addColumns more => simp [apply, addColumns, Arguments.push_eq]
  | setColumns columns => simp [apply, setColumns, Arguments.push_eq]
  | source table =>
    by_cases h : table.isNamed = true <;>
      simp [apply, setSource, Target.set, h, Target.refuse, Option.guard]
  | dataset d =>
    by_cases h : d.source.isNamed = true <;>
      simp [apply, setDataset, Target.set, h, Target.refuse, Option.guard]
  | join kind table conditions =>
    by_cases h : table.isNamed = true <;> simp [apply, addJoin, h, Target.refuse, Option.filter]
  | restrict condition => simp [apply, restrict]
  | sort columns direction =>
    by_cases h : columns.toList = [] <;> simp [apply, sort, Arguments.push_eq, h]

/-- What a run of steps leaves. -/
theorem assemble_eq :
    assemble steps =
      { columns := finalColumns steps
        target := { table := finalTable steps, refused := refusals steps }
        joins := finalJoins steps
        condition := finalCondition steps
        sortings := finalSortings steps } := by
  induction steps using List.reverseRecOn with
  | nil => rfl
  | append_singleton steps step ih =>
    rw [assemble_concat, apply_eq, ih, finalColumns_concat, finalTable_concat, finalJoins_concat,
      finalCondition_concat, finalSortings_concat, refusals_concat]

/-- Every sorting was brought by a step with columns to sort by. -/
theorem exists_step_of_mem_sortings {steps : List Step} {x : Sorting}
    (h : x ∈ (assemble steps).sortings) :
    ∃ columns direction, Step.sort columns direction ∈ steps ∧ columns.toList ≠ [] ∧
      x = ⟨columns.toList, direction⟩ := by
  rw [assemble_eq] at h
  obtain ⟨step, listed, brought⟩ := List.mem_filterMap.1 h
  cases step with
  | sort columns direction =>
    rw [Step.sorting?] at brought
    split at brought
    · cases brought
    · rename_i nonempty
      cases brought
      exact ⟨columns, direction, listed, nonempty, rfl⟩
  | addColumns | setColumns | source | dataset | join | restrict => cases brought

/-! ## Writing -/

/-- A SELECT clause by clause.  Every clause but the first brings the space in front of it. -/
def written (columns : List String) (table : Option Table) (joins : List Join)
    (condition : Option Condition) (sortings : List Sorting) : String :=
  "SELECT " ++ (if columns = [] then "*" else ", ".intercalate columns) ++
    (table.elim "" fun table => " FROM " ++ table.sql) ++
    String.join (joins.map fun j => " " ++ j.sql) ++
    (condition.elim "" fun condition => " WHERE " ++ condition.text) ++
    (if sortings = [] then "" else " ORDER BY " ++ ", ".intercalate (sortings.map Sorting.sql))

/-- Parts with spaces between them, each but the first with the space in front of it. -/
theorem sentence_cons (part : String) (parts : List String) :
    sentence (part :: parts) = part ++ String.join (parts.map (" " ++ ·)) := by
  induction parts generalizing part with
  | nil => simp [sentence]
  | cons next parts ih =>
    have := ih next
    unfold sentence at this ⊢
    rw [String.intercalate_cons_cons, this, List.map_cons, String.join_cons]
    simp only [String.append_assoc]

theorem join_two (word text : String) :
    String.join ([word, text].map (" " ++ ·)) = " " ++ word ++ " " ++ text := by
  simp only [List.map_cons, List.map_nil, String.join_cons, String.join_nil, String.append_empty,
    String.append_assoc]

theorem body_eq_written (s : Select) :
    s.body = written s.columns s.target.table s.joins s.condition s.sortings := by
  obtain ⟨columns, ⟨table, refused⟩, joins, condition, sortings⟩ := s
  have source : String.join ((Target.behind "FROM" ⟨table, refused⟩).map (" " ++ ·)) =
      table.elim "" fun table => " FROM " ++ table.sql := by
    cases table with
    | none => rfl
    | some table =>
      have hw : " " ++ "FROM" ++ " " = " FROM " := by decide
      rw [Target.behind, join_two, hw, Option.elim]
  have restricted : String.join ((restriction condition).map (" " ++ ·)) =
      condition.elim "" fun condition => " WHERE " ++ condition.text := by
    cases condition with
    | none => rfl
    | some condition =>
      have hw : " " ++ "WHERE" ++ " " = " WHERE " := by decide
      rw [restriction, join_two, hw, Option.elim]
  have ordered : String.join ((order sortings).map (" " ++ ·)) =
      if sortings = [] then ""
      else " ORDER BY " ++ ", ".intercalate (sortings.map Sorting.sql) := by
    cases sortings with
    | nil => rfl
    | cons sorting sortings =>
      have hw : " " ++ "ORDER BY" ++ " " = " ORDER BY " := by decide
      rw [if_neg (List.cons_ne_nil _ _), ← hw, ← join_two]
      rfl
  have start : "SELECT" ++ " " = "SELECT " := by decide
  have listed : columnList columns = if columns = [] then "*" else ", ".intercalate columns := by
    cases columns <;> rfl
  unfold body written
  rw [List.append_assoc, List.append_assoc, List.append_assoc, List.cons_append, sentence_cons]
  simp only [List.map_append, String.join_append, source, restricted, ordered, listed,
    List.map_map, List.map_cons, String.join_cons, List.singleton_append, ← start,
    String.append_assoc]
  rfl

/-! ## Steps for different clauses -/

/-- The clauses that steps have to do with. -/
inductive Clause where
  | columns
  | table
  | joins
  | condition
  | order
  deriving DecidableEq, Repr

/-- Whether a step has to do with a clause. -/
def Step.concerns : Clause → Step → Bool
  | .columns, addColumns _ => true
  | .columns, setColumns _ => true
  | .columns, dataset _ => true
  | .table, source _ => true
  | .table, dataset _ => true
  | .joins, join _ _ _ => true
  | .condition, restrict _ => true
  | .order, sort _ _ => true
  | _, _ => false

/-- A step brings nothing to a clause that it has nothing to do with. -/
theorem Step.eq_none_of_not_concerns (step : Step) :
    (step.concerns .columns = false → step.reset? = none ∧ step.added = []) ∧
    (step.concerns .table = false → step.source? = none) ∧
    (step.concerns .joins = false → step.join? = none) ∧
    (step.concerns .condition = false → step.condition? = none) ∧
    (step.concerns .order = false → step.sorting? = none) := by
  cases step <;> simp [concerns, reset?, added, source?, join?, condition?, sorting?]

theorem filterMap_eq_of_filter_eq {α : Type} {f : Step → Option α} {clause : Clause}
    (idle : ∀ step : Step, step.concerns clause = false → f step = none)
    {first second : List Step}
    (h : first.filter (Step.concerns clause) = second.filter (Step.concerns clause)) :
    first.filterMap f = second.filterMap f := by
  have alone : ∀ steps : List Step,
      (steps.filter (Step.concerns clause)).filterMap f = steps.filterMap f := by
    intro steps
    rw [List.filterMap_filter]
    refine List.filterMap_congr ?_
    intro step _
    by_cases hc : step.concerns clause = true
    · rw [if_pos hc]
    · rw [if_neg hc, idle step (Bool.eq_false_iff.2 hc)]
  rw [← alone first, h, alone second]

theorem finalColumns_filter :
    finalColumns (steps.filter (Step.concerns .columns)) = finalColumns steps := by
  induction steps using List.reverseRecOn with
  | nil => rfl
  | append_singleton steps step ih =>
    by_cases hc : step.concerns .columns = true
    · rw [List.filter_append, List.filter_cons_of_pos hc, List.filter_nil, finalColumns_concat,
        finalColumns_concat, ih]
    · have idle := step.eq_none_of_not_concerns.1 (Bool.eq_false_iff.2 hc)
      rw [List.filter_append, List.filter_cons_of_neg hc, List.filter_nil, List.append_nil, ih,
        finalColumns_concat, idle.1, idle.2, List.append_nil, Option.getD_none]

/-- The steps of each clause, each list in its order, say everything but how many tables were
refused; and that is the same in any order. -/
theorem assemble_congr {first second : List Step} (perm : first.Perm second)
    (h : ∀ clause, first.filter (Step.concerns clause) = second.filter (Step.concerns clause)) :
    assemble first = assemble second := by
  have columns : finalColumns first = finalColumns second := by
    rw [← finalColumns_filter first, h, finalColumns_filter]
  have table : finalTable first = finalTable second := by
    have idle := fun step : Step => step.eq_none_of_not_concerns.2.1
    rw [finalTable, filterMap_eq_of_filter_eq idle (h .table), finalTable]
  have joins : finalJoins first = finalJoins second := by
    have idle := fun step : Step => step.eq_none_of_not_concerns.2.2.1
    rw [finalJoins, filterMap_eq_of_filter_eq idle (h .joins), finalJoins]
  have condition : finalCondition first = finalCondition second := by
    have idle := fun step : Step => step.eq_none_of_not_concerns.2.2.2.1
    rw [finalCondition, filterMap_eq_of_filter_eq idle (h .condition), finalCondition]
  have sortings : finalSortings first = finalSortings second := by
    have idle := fun step : Step => step.eq_none_of_not_concerns.2.2.2.2
    exact filterMap_eq_of_filter_eq idle (h .order)
  have refused : refusals first = refusals second := (perm.filterMap _).countP_eq _
  rw [assemble_eq, assemble_eq, columns, table, joins, condition, sortings, refused]

/-- **A SELECT and its history.**  The text is written from the columns of the last step that
replaced them and those added since, the table given last, the joins of tables with a name, the
last condition and the sortings by at least one column.  So steps may change places as long as
those that concern one clause stay in their order. -/
theorem body_assemble :
    (assemble steps).body =
      written (finalColumns steps) (finalTable steps) (finalJoins steps) (finalCondition steps)
        (finalSortings steps) ∧
    ∀ other : List Step, other.Perm steps →
      (∀ clause, other.filter (Step.concerns clause) = steps.filter (Step.concerns clause)) →
      (assemble other).body = (assemble steps).body ∧
        (Statement.select (assemble other)).sql = (Statement.select (assemble steps)).sql := by
  constructor
  · rw [body_eq_written, assemble_eq]
  · intro other perm h
    rw [assemble_congr perm h]
    exact ⟨rfl, rfl⟩

/-- One step for each clause, the last clause first. -/
def lastClauseFirst : List Step :=
  [.sortAscending (.one "name"), .restrict (.leaf (.verbatim "age > 18")),
    .leftJoin (.named "orders") [.leaf (.verbatim "users.id = orders.user")],
    .source (.named "users"), .addColumns (.many ["id", "name"])]

theorem body_reverse_lastClauseFirst :
    (assemble lastClauseFirst.reverse).body = (assemble lastClauseFirst).body ∧
    (assemble lastClauseFirst).body =
      "SELECT id, name FROM users LEFT JOIN orders ON users.id = orders.user" ++
        " WHERE age > 18 ORDER BY name ASC" := by
  have text := body_assemble lastClauseFirst
  refine ⟨(text.2 lastClauseFirst.reverse (List.reverse_perm _) ?_).1, text.1.trans ?_⟩
  · intro clause
    cases clause <;> rfl
  · decide

end SqlAssembly.Select
