import SqlAssembly.Arguments
import SqlAssembly.Statement.Clause
import SqlAssembly.Value

/-!
# INSERT

* `Insert` — `InsertBuilder`: its columns, which are given at the start, its table and its rows.
* `Insert.start`, `Insert.Step` — `new`, and the steps after it: `target` is `into_table`, `row` is
  `values`.
* `Insert.apply`, `Insert.assemble` — what one step does, and a sequence of them.
* `Insert.body` — `build_sql`, with `tuple` for `render_row`.
* `Insert.faults` — the errors of `validate`.
-/

set_option autoImplicit false

namespace SqlAssembly

/-- An INSERT under assembly. -/
structure Insert where
  columns : List String := []
  target : Target := {}
  /-- The rows in the order in which they were given; none of them is empty. -/
  rows : List (List Value) := []
  deriving DecidableEq, Repr

namespace Insert

/-- A step in the assembly of an INSERT. -/
inductive Step where
  /-- The table that receives the rows. -/
  | target (table : Table)
  /-- One more row. -/
  | row (values : Arguments Value)

/-- An INSERT into these columns. -/
def start (columns : Arguments String) : Insert := { columns := columns.push [] }

def setTarget (s : Insert) (table : Table) : Insert := { s with target := s.target.set table }

/-- A row without values is no row. -/
def addRow (s : Insert) (values : Arguments Value) : Insert :=
  match values.push [] with
  | [] => s
  | row => { s with rows := s.rows ++ [row] }

def apply (s : Insert) : Step → Insert
  | .target table => s.setTarget table
  | .row values => s.addRow values

/-- The INSERT that a sequence of steps assembles. -/
def assemble (columns : Arguments String) (steps : List Step) : Insert :=
  steps.foldl apply (start columns)

/-- A list between spaced round brackets. -/
def tuple (items : List String) : String := "( " ++ ", ".intercalate items ++ " )"

/-- The column list, which is left out when there are no columns. -/
def columnPart (columns : List String) : List String :=
  if columns.isEmpty then [] else [tuple columns]

/-- The rows behind the word VALUES. -/
def rowPart (rows : List (List Value)) : List String :=
  if rows.isEmpty then []
  else ["VALUES", ", ".intercalate (rows.map fun row => tuple (row.map Value.literal))]

/-- The statement without its semicolon, whatever is missing. -/
def body (s : Insert) : String :=
  sentence (["INSERT"] ++ s.target.behind "INTO" ++ columnPart s.columns ++ rowPart s.rows)

/-- Why the statement cannot be written. -/
def faults (s : Insert) : List Fault :=
  s.target.refusals ++ s.target.missing ++ (if s.rows.isEmpty then [.noRows] else [])

theorem columns_start (columns : Arguments String) : (start columns).columns = columns.toList := by
  simp [start, Arguments.push_eq]

theorem rows_addRow (s : Insert) (values : Arguments Value) :
    (s.addRow values).rows =
      s.rows ++ (if values.toList = [] then [] else [values.toList]) := by
  unfold addRow
  rw [Arguments.push_eq, List.nil_append]
  split
  · rename_i empty
    simp [empty]
  · rename_i nonempty
    rw [if_neg nonempty]

end Insert

end SqlAssembly
