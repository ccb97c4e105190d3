import SqlAssembly.Proofs.Statement.Latest
import SqlAssembly.Statement

/-!
# Grouping does not matter

A clause sees the items of an argument from left to right, and nothing of how they were grouped.

* `Arguments.push_group` — the items of a group are put down part by part.
* `Arguments.SameColumns`, `Arguments.SameValues` — two arguments that no clause can tell apart;
  they are those with the same items.
* `foldl_plain`, `foldl_without` — steps that bring nothing can be left out of a run.
* `Select.addColumns_group` — columns added one argument after the other.
* `Select.assemble_plain`, `Insert.assemble_plain` — a run does the same with its arguments
  ungrouped and without the steps that have nothing to add.
* `Arguments.grouping_does_not_matter` — all of this together.
-/

set_option autoImplicit false

namespace SqlAssembly

namespace Arguments

theorem push_congr {α : Type} {a b : Arguments α} (h : a.toList = b.toList) (present : List α) :
    a.push present = b.push present := by
  rw [push_eq, push_eq, h]

/-- An argument without items leaves what is there. -/
theorem push_of_toList_eq_nil {α : Type} {a : Arguments α} (h : a.toList = [])
    (present : List α) : a.push present = present := by
  rw [push_eq, h, List.append_nil]

theorem toList_many {α : Type} (items : List α) : (many items).toList = items := by rw [toList]

theorem push_group {α : Type} (present : List α) (parts : List (Arguments α)) :
    push present (group parts) = parts.foldl push present := by
  rw [push]
  induction parts generalizing present with
  | nil => rw [pushParts, List.foldl_nil]
  | cons part parts ih => rw [pushParts, List.foldl_cons, ih]

/-- No clause that takes columns can tell two arguments apart. -/
structure SameColumns (a b : Arguments String) : Prop where
  added : ∀ s : Select, s.addColumns a = s.addColumns b
  set : ∀ s : Select, s.setColumns a = s.setColumns b
  sorted : ∀ (s : Select) (direction : Direction), s.sort a direction = s.sort b direction
  inserted : Insert.start a = Insert.start b

/-- No clause that takes values can tell two arguments apart. -/
structure SameValues (a b : Arguments Value) : Prop where
  row : ∀ s : Insert, s.addRow a = s.addRow b
  among : ∀ (target : String) (negated : Bool),
    Predicate.among target negated a = Predicate.among target negated b

theorem sameColumns_iff (a b : Arguments String) : SameColumns a b ↔ a.toList = b.toList := by
  constructor
  · intro same
    have columns := congrArg Insert.columns same.inserted
    rwa [Insert.columns_start, Insert.columns_start] at columns
  · intro items
    have pushed := push_congr items
    refine ⟨fun s => ?_, fun s => ?_, fun s direction => ?_, ?_⟩
    · rw [Select.addColumns, Select.addColumns, pushed]
    · rw [Select.setColumns, Select.setColumns, pushed]
    · rw [Select.sort, Select.sort, pushed]
    · rw [Insert.start, Insert.start, pushed]

theorem sameValues_iff (a b : Arguments Value) : SameValues a b ↔ a.toList = b.toList := by
  constructor
  · intro same
    have predicates := same.among "" false
    rw [Predicate.among_eq, Predicate.among_eq] at predicates
    exact (Predicate.oneOf.inj predicates).2.2
  · intro items
    have pushed := push_congr items
    refine ⟨fun s => ?_, fun target negated => ?_⟩
    · rw [Insert.addRow, Insert.addRow, pushed]
    · rw [Predicate.among, Predicate.among, pushed]

end Arguments

/-! ## Steps that bring nothing -/

section

variable {State Step : Type} {apply : State → Step → State} {plain? : Step → Option Step}

/-- A run does the same with plain steps if each of them does what the step it stands for does, and
the steps without one do nothing. -/
theorem foldl_plain (one : ∀ s step, apply s step = (plain? step).elim s (apply s))
    (steps : List Step) (s : State) :
    (steps.filterMap plain?).foldl apply s = steps.foldl apply s :=
  (foldl_apply_eq_foldl_filterMap id one steps s).symm

/-- A step that does nothing can be left out wherever it stands. -/
theorem foldl_without (one : ∀ s step, apply s step = (plain? step).elim s (apply s))
    {step : Step} (h : plain? step = none) (before after : List Step) (s : State) :
    (before ++ step :: after).foldl apply s = (before ++ after).foldl apply s := by
  rw [← foldl_plain one, List.filterMap_append, List.filterMap_cons_none h,
    ← List.filterMap_append, foldl_plain one]

end

/-! ## SELECT -/

namespace Select

/-- Columns that are given one argument after the other could have been given as one group. -/
theorem addColumns_group (s : Select) (parts : List (Arguments String)) :
    s.addColumns (.group parts) = parts.foldl addColumns s := by
  rw [addColumns, Arguments.push_group]
  induction parts generalizing s with
  | nil => rfl
  | cons part parts ih => exact ih (s.addColumns part)

/-- A step with its columns in one row, or nothing if it has none to add. -/
def Step.plain? : Step → Option Step
  | addColumns columns =>
    if columns.toList = [] then none else some (addColumns (.many columns.toList))
  | setColumns columns => some (setColumns (.many columns.toList))
  | sort columns direction =>
    if columns.toList = [] then none else some (sort (.many columns.toList) direction)
  | other => some other

theorem apply_eq_plain (s : Select) (step : Step) : s.apply step = step.plain?.elim s s.apply := by
  have row : ∀ columns : Arguments String,
      columns.SameColumns (.many columns.toList) := fun columns =>
    (Arguments.sameColumns_iff _ _).2 (Arguments.toList_many _).symm
  cases step with
  | addColumns columns =>
    rw [Step.plain?]
    split
    · rename_i empty
      show s.addColumns columns = s
      rw [addColumns, Arguments.push_of_toList_eq_nil empty]
    · exact (row columns).added s
  | setColumns columns => exact (row columns).set s
  | sort columns direction =>
    rw [Step.plain?]
    split
    · rename_i empty
      show s.sort columns direction = s
      rw [sort, Arguments.push_of_toList_eq_nil empty]
    · exact (row columns).sorted s direction
  | source | dataset | join | restrict => rfl

theorem assemble_plain (steps : List Step) :
    assemble (steps.filterMap Step.plain?) = assemble steps :=
  foldl_plain apply_eq_plain steps {}

end Select

/-! ## INSERT -/

namespace Insert

/-- A step with its values in one row, or nothing if it has none. -/
def Step.plain? : Step → Option Step
  | target table => some (target table)
  | row values => if values.toList = [] then none else some (row (.many values.toList))

theorem apply_eq_plain (s : Insert) (step : Step) : s.apply step = step.plain?.elim s s.apply := by
  cases step with
  | target table => rfl
  | row values =>
    rw [Step.plain?]
    split
    · rename_i empty
      show s.addRow values = s
      rw [addRow, Arguments.push_of_toList_eq_nil empty]
    · exact ((Arguments.sameValues_iff _ _).2 (Arguments.toList_many _).symm).row s

theorem assemble_plain (columns : Arguments String) (steps : List Step) :
    assemble columns (steps.filterMap Step.plain?) = assemble columns steps :=
  foldl_plain apply_eq_plain steps (start columns)

end Insert

namespace Arguments

/-- **Grouping does not matter.**  An argument puts its items behind those that are there, from left
to right.  Two arguments for columns, or two for values, are the same to every clause exactly when
their items are.  Columns can be added one argument after the other or as one group, and an argument
without items leaves no trace in any run.  So a whole run does the same with all of its arguments
ungrouped and without the steps that have nothing to add. -/
theorem grouping_does_not_matter :
    (∀ {α : Type} (present : List α) (a : Arguments α), a.push present = present ++ a.toList) ∧
      (∀ a b : Arguments String, SameColumns a b ↔ a.toList = b.toList) ∧
      (∀ a b : Arguments Value, SameValues a b ↔ a.toList = b.toList) ∧
      (∀ (s : Select) (parts : List (Arguments String)),
        s.addColumns (.group parts) = parts.foldl Select.addColumns s) ∧
      (∀ a : Arguments String, a.toList = [] →
        (∀ s : Select, (s.setColumns a).columns = []) ∧ (Insert.start a).columns = [] ∧
        ∀ before after : List Select.Step,
          Select.assemble (before ++ .addColumns a :: after) = Select.assemble (before ++ after) ∧
          ∀ direction : Direction,
            Select.assemble (before ++ .sort a direction :: after) =
              Select.assemble (before ++ after)) ∧
      (∀ a : Arguments Value, a.toList = [] →
        ∀ (columns : Arguments String) (before after : List Insert.Step),
          Insert.assemble columns (before ++ .row a :: after) =
            Insert.assemble columns (before ++ after)) ∧
      (∀ steps : List Select.Step,
        Select.assemble (steps.filterMap Select.Step.plain?) = Select.assemble steps) ∧
      ∀ (columns : Arguments String) (steps : List Insert.Step),
        Insert.assemble columns (steps.filterMap Insert.Step.plain?) =
          Insert.assemble columns steps := by
  refine ⟨push_eq, sameColumns_iff, sameValues_iff, Select.addColumns_group, ?_, ?_,
    Select.assemble_plain, Insert.assemble_plain⟩
  · intro a empty
    refine ⟨fun s => ?_, ?_, fun before after => ⟨?_, fun direction => ?_⟩⟩
    · rw [Select.columns_setColumns, empty]
    · rw [Insert.columns_start, empty]
    · refine foldl_without Select.apply_eq_plain ?_ before after {}
      exact if_pos empty
    · refine foldl_without Select.apply_eq_plain ?_ before after {}
      exact if_pos empty
  · intro a empty columns before after
    refine foldl_without Insert.apply_eq_plain ?_ before after (Insert.start columns)
    exact if_pos empty

/-- Groups of nothing, in a sorting and in a row between others. -/
theorem grouping_does_not_matter_nestedNothing :
    (group [none, group []] : Arguments String).toList = [] ∧
    Select.assemble ([.addColumns (.one "id")] ++
        .sort (.group [.none, .group []]) .descending :: [.source (.named "users")]) =
      Select.assemble ([.addColumns (.one "id")] ++ [.source (.named "users")]) ∧
    (group [many [], group [none]] : Arguments Value).toList = [] ∧
    Insert.assemble (.one "id") ([.row (.one (.int 1))] ++
        .row (.group [.many [], .group [.none]]) :: [.target (.named "users")]) =
      Insert.assemble (.one "id") ([.row (.one (.int 1))] ++ [.target (.named "users")]) := by
  obtain ⟨-, -, -, -, columns, values, -⟩ := grouping_does_not_matter
  have noColumn : (group [none, group []] : Arguments String).toList = [] := by decide
  have noValue : (group [many [], group [none]] : Arguments Value).toList = [] := by decide
  refine ⟨noColumn, ?_, noValue, values _ noValue _ _ _⟩
  exact ((columns _ noColumn).2.2 _ _).2 .descending

end Arguments

end SqlAssembly
