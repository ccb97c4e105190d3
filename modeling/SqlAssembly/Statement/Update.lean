import SqlAssembly.Statement.Clause
import SqlAssembly.Value

/-!
# UPDATE

* `Assignment` — a column and the value it is set to.
* `Assignment.put` — `set`: assigning a column again replaces its value where it stands.
* `Update`, `Update.Step` — `UpdateBuilder` and its calls: `target` is `table`, `assign` is `set`,
  `assignAll` is `set_map` and `restrict` is `filter`.
* `Update.body`, `Update.faults` — `build_sql`, the statement without its semicolon, and the errors
  of `validate`, why it cannot be written.
-/

set_option autoImplicit false

namespace SqlAssembly

/-- A column and the value it is set to. -/
structure Assignment where
  column : String
  value : Value
  deriving DecidableEq, Repr

namespace Assignment

def sql (a : Assignment) : String := a.column ++ " = " ++ a.value.literal

/-- Assigns a column.  It keeps its place when it was assigned before, and comes last when it was
not. -/
def put (new : Assignment) : List Assignment → List Assignment
  | [] => [new]
  | a :: rest => if a.column = new.column then new :: rest else a :: put new rest

/-- Assigns several columns one after the other. -/
def putAll (present : List Assignment) (news : List Assignment) : List Assignment :=
  news.foldl (fun assignments new => put new assignments) present

/-- The columns assigned afterwards: a new one comes last. -/
theorem columns_put (new : Assignment) (assignments : List Assignment) :
    (put new assignments).map column =
      if new.column ∈ assignments.map column then assignments.map column
      else assignments.map column ++ [new.column] := by
  induction assignments with
  | nil => rfl
  | cons a rest ih =>
    unfold put
    by_cases same : a.column = new.column
    · simp [same]
    · rw [if_neg same, List.map_cons, ih, List.map_cons]
      by_cases old : new.column ∈ rest.map column
      · simp only [old, List.mem_cons, or_true, if_true]
      · have differs : ¬ new.column = a.column := fun h => same h.symm
        simp only [old, List.mem_cons, differs, or_self, if_false, List.cons_append]

end Assignment

/-- An UPDATE under assembly. -/
structure Update where
  target : Target := {}
  assignments : List Assignment := []
  condition : Option Condition := none
  deriving DecidableEq, Repr

namespace Update

/-- A step in the assembly of an UPDATE. -/
inductive Step where
  /-- The table to change. -/
  | target (table : Table)
  /-- One more assignment. -/
  | assign (column : String) (value : Value)
  /-- These assignments instead of those already there. -/
  | assignAll (assignments : List Assignment)
  /-- The condition on the rows, instead of an earlier one. -/
  | restrict (condition : Condition)

def setTarget (s : Update) (table : Table) : Update := { s with target := s.target.set table }

/-- An UPDATE of a table. -/
def start (table : Table) : Update := ({} : Update).setTarget table

def assign (s : Update) (column : String) (value : Value) : Update :=
  { s with assignments := Assignment.put ⟨column, value⟩ s.assignments }

/-- Of two assignments to one column the later one counts, in the place of the earlier one. -/
def assignAll (s : Update) (assignments : List Assignment) : Update :=
  { s with assignments := Assignment.putAll [] assignments }

def restrict (s : Update) (condition : Condition) : Update := { s with condition }

def apply (s : Update) : Step → Update
  | .target table => s.setTarget table
  | .assign column value => s.assign column value
  | .assignAll assignments => s.assignAll assignments
  | .restrict condition => s.restrict condition

/-- The UPDATE that a sequence of steps makes of another one. -/
def assemble (s : Update) (steps : List Step) : Update := steps.foldl apply s

/-- The statement without its semicolon, whatever is missing. -/
def body (s : Update) : String :=
  sentence <|
    ["UPDATE"] ++ s.target.alone ++ ["SET", ", ".intercalate (s.assignments.map Assignment.sql)] ++
      restriction s.condition

/-- Why the statement cannot be written.  Without a table nothing else is reported. -/
def faults (s : Update) : List Fault :=
  if s.target.table.isNone then [.noTable]
  else s.target.refusals ++ (if s.assignments.isEmpty then [.noAssignments] else [])

/-- Assigning all at once is clearing and then assigning one by one. -/
theorem assignAll_eq_foldl (s : Update) (assignments : List Assignment) :
    s.assignAll assignments =
      assignments.foldl (fun s a => s.assign a.column a.value) { s with assignments := [] } := by
  have general : ∀ (news : List Assignment) (s : Update),
      news.foldl (fun s a => s.assign a.column a.value) s =
        { s with assignments := Assignment.putAll s.assignments news } := by
    intro news
    induction news with
    | nil => intro s; rfl
    | cons new news ih => intro s; rw [List.foldl_cons, ih]; rfl
  rw [general]
  rfl

end Update

end SqlAssembly
