import SqlAssembly.Statement.Clause

/-!
# DELETE and TRUNCATE

Both take their table at the start.

* `Delete`, `Truncate` — `DeleteBuilder` and `TruncateBuilder`; `Delete.restrict` is `filter`.
* `Delete.body`, `Truncate.body` — `build_sql`: the statements without their semicolons.
* `Delete.faults`, `Truncate.faults` — the errors of `validate`: only a refused table is one.
-/

set_option autoImplicit false

namespace SqlAssembly

/-- A DELETE under assembly. -/
structure Delete where
  target : Target
  condition : Option Condition := none
  deriving DecidableEq, Repr

namespace Delete

/-- A step in the assembly of a DELETE. -/
inductive Step where
  /-- The condition on the rows, instead of an earlier one. -/
  | restrict (condition : Condition)

/-- A DELETE from a table. -/
def start (table : Table) : Delete := { target := ({} : Target).set table }

def restrict (s : Delete) (condition : Condition) : Delete := { s with condition }

def apply (s : Delete) : Step → Delete
  | .restrict condition => s.restrict condition

/-- The DELETE that a sequence of steps assembles. -/
def assemble (table : Table) (steps : List Step) : Delete := steps.foldl apply (start table)

def body (s : Delete) : String :=
  sentence (["DELETE FROM"] ++ s.target.alone ++ restriction s.condition)

def faults (s : Delete) : List Fault := s.target.refusals

/-- No step changes the table. -/
theorem target_assemble (table : Table) (steps : List Step) :
    (assemble table steps).target = ({} : Target).set table := by
  have general : ∀ (steps : List Step) (s : Delete), (steps.foldl apply s).target = s.target := by
    intro steps
    induction steps with
    | nil => intro s; rfl
    | cons step steps ih => intro s; rw [List.foldl_cons, ih]; cases step; rfl
  exact general steps (start table)

end Delete

/-- A TRUNCATE. -/
structure Truncate where
  target : Target
  deriving DecidableEq, Repr

namespace Truncate

/-- A TRUNCATE of a table. -/
def start (table : Table) : Truncate := { target := ({} : Target).set table }

def body (s : Truncate) : String := sentence (["TRUNCATE TABLE"] ++ s.target.alone)

def faults (s : Truncate) : List Fault := s.target.refusals

end Truncate

end SqlAssembly
