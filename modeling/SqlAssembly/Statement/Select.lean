import SqlAssembly.Arguments
import SqlAssembly.Schema.Dataset
import SqlAssembly.Statement.Clause
import SqlAssembly.Statement.Join

/-!
# SELECT

A SELECT is assembled in steps that may come in any order; it is written in the order of its
clauses.

* `Select` — `SelectBuilder`: what has been assembled so far.  Of an ORDER BY clause the columns are
  kept as a list (`Sorting`), and put together when it is written.
* `Select.Step` — the calls: `addColumns` is `field`, `setColumns` is `fields`, `source` is `from`,
  `dataset` is `from_dataset`, `join` is `join`, `restrict` is `filter` and `sort` is `order_by`.
* `Select.apply`, `Select.assemble` — what one step does, and a sequence of them.
* `Select.body` — `build_sql`: the statement without its semicolon, whatever is missing.
* `Select.faults` — the errors of `validate`: why it cannot be written.
-/

set_option autoImplicit false

namespace SqlAssembly

/-- The directions of an order. -/
inductive Direction where
  | ascending
  | descending
  deriving DecidableEq, Repr

/-- When nothing is said, an order is ascending. -/
instance : Inhabited Direction := ⟨.ascending⟩

def Direction.word : Direction → String
  | ascending => "ASC"
  | descending => "DESC"

/-- Columns to sort by, with the one direction that is written behind the last of them. -/
structure Sorting where
  columns : List String
  direction : Direction
  deriving DecidableEq, Repr

def Sorting.sql (s : Sorting) : String := ", ".intercalate s.columns ++ " " ++ s.direction.word

/-- A SELECT under assembly. -/
structure Select where
  columns : List String := []
  target : Target := {}
  joins : List Join := []
  condition : Option Condition := none
  sortings : List Sorting := []
  deriving DecidableEq, Repr

namespace Select

/-! ## Steps -/

/-- A step in the assembly of a SELECT. -/
inductive Step where
  /-- Further columns behind those already there. -/
  | addColumns (columns : Arguments String)
  /-- These columns instead of those already there. -/
  | setColumns (columns : Arguments String)
  /-- The table to read. -/
  | source (table : Table)
  /-- The table and the columns of a dataset. -/
  | dataset (dataset : Dataset)
  /-- A further table. -/
  | join (kind : Join.Kind) (table : Table) (conditions : List Condition)
  /-- The condition on the rows, instead of an earlier one. -/
  | restrict (condition : Condition)
  /-- Columns to sort by, after those already there. -/
  | sort (columns : Arguments String) (direction : Direction)

namespace Step

def innerJoin (table : Table) (conditions : List Condition) : Step :=
  join .inner table conditions

def leftJoin (table : Table) (conditions : List Condition) : Step :=
  join .left table conditions

def rightJoin (table : Table) (conditions : List Condition) : Step :=
  join .right table conditions

def fullJoin (table : Table) (conditions : List Condition) : Step :=
  join .full table conditions

/-- A cross join has no condition. -/
def crossJoin (table : Table) : Step := join .cross table []

def sortAscending (columns : Arguments String) : Step := sort columns .ascending

def sortDescending (columns : Arguments String) : Step := sort columns .descending

end Step

def addColumns (s : Select) (columns : Arguments String) : Select :=
  { s with columns := columns.push s.columns }

def setColumns (s : Select) (columns : Arguments String) : Select :=
  { s with columns := columns.push [] }

def setSource (s : Select) (table : Table) : Select := { s with target := s.target.set table }

/-- Takes the columns of the dataset even when its table is refused. -/
def setDataset (s : Select) (dataset : Dataset) : Select :=
  { s with columns := dataset.columns, target := s.target.set dataset.source }

/-- A table without a name is refused and joins nothing. -/
def addJoin (s : Select) (j : Join) : Select :=
  if j.table.isNamed then { s with joins := s.joins ++ [j] }
  else { s with target := s.target.refuse }

def restrict (s : Select) (condition : Condition) : Select := { s with condition }

/-- Sorting by no column leaves the order as it is. -/
def sort (s : Select) (columns : Arguments String) (direction : Direction) : Select :=
  match columns.push [] with
  | [] => s
  | columns => { s with sortings := s.sortings ++ [⟨columns, direction⟩] }

def apply (s : Select) : Step → Select
  | .addColumns columns => s.addColumns columns
  | .setColumns columns => s.setColumns columns
  | .source table => s.setSource table
  | .dataset dataset => s.setDataset dataset
  | .join kind table conditions => s.addJoin ⟨kind, table, conditions⟩
  | .restrict condition => s.restrict condition
  | .sort columns direction => s.sort columns direction

/-- The SELECT that a sequence of steps assembles. -/
def assemble (steps : List Step) : Select := steps.foldl apply {}

/-! ## Writing -/

/-- The columns of a SELECT, or a star for all. -/
def columnList (columns : List String) : String :=
  if columns.isEmpty then "*" else ", ".intercalate columns

/-- The ORDER BY part. -/
def order (sortings : List Sorting) : List String :=
  if sortings.isEmpty then [] else ["ORDER BY", ", ".intercalate (sortings.map Sorting.sql)]

/-- The statement without its semicolon, whatever is missing. -/
def body (s : Select) : String :=
  sentence <|
    ["SELECT", columnList s.columns] ++ s.target.behind "FROM" ++ s.joins.map Join.sql ++
      restriction s.condition ++ order s.sortings

/-- Why the statement cannot be written. -/
def faults (s : Select) : List Fault := s.target.refusals ++ s.target.missing

/-! ## What a step changes -/

theorem columns_addColumns (s : Select) (columns : Arguments String) :
    (s.addColumns columns).columns = s.columns ++ columns.toList := by
  simp [addColumns, Arguments.push_eq]

theorem columns_setColumns (s : Select) (columns : Arguments String) :
    (s.setColumns columns).columns = columns.toList := by
  simp [setColumns, Arguments.push_eq]

theorem assemble_append (first second : List Step) :
    assemble (first ++ second) = second.foldl apply (assemble first) := by
  simp [assemble]

end Select

end SqlAssembly
