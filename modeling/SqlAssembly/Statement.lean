import SqlAssembly.Statement.Insert
import SqlAssembly.Statement.Removal
import SqlAssembly.Statement.Select
import SqlAssembly.Statement.Update

/-!
# Statements

* `Statement` — `SqlStatement`: a statement of any kind.
* `Statement.body`, `Statement.faults` — `build_sql`, its text without the semicolon, and the errors
  that `validate` combines, why it cannot be written.
* `Statement.sql` — `to_sql`: its text, or its faults as one.
-/

set_option autoImplicit false

namespace SqlAssembly

/-- The kinds of statements. -/
inductive Statement.Kind where
  | select
  | insert
  | update
  | delete
  | truncate
  deriving DecidableEq, Repr

def Statement.Kind.word : Statement.Kind → String
  | select => "SELECT"
  | insert => "INSERT"
  | update => "UPDATE"
  | delete => "DELETE"
  | truncate => "TRUNCATE"

/-- A statement under assembly. -/
inductive Statement where
  | select (statement : Select)
  | insert (statement : Insert)
  | update (statement : Update)
  | delete (statement : Delete)
  | truncate (statement : Truncate)
  deriving DecidableEq, Repr

namespace Statement

def kind : Statement → Kind
  | select _ => .select
  | insert _ => .insert
  | update _ => .update
  | delete _ => .delete
  | truncate _ => .truncate

/-- The statement without its semicolon, whatever is missing. -/
def body : Statement → String
  | select s => s.body
  | insert s => s.body
  | update s => s.body
  | delete s => s.body
  | truncate s => s.body

/-- Why the statement cannot be written. -/
def faults : Statement → List Fault
  | select s => s.faults
  | insert s => s.faults
  | update s => s.faults
  | delete s => s.faults
  | truncate s => s.faults

/-- The statement with its semicolon, or its faults as one. -/
def sql (s : Statement) : Except Fault String := conclude s.faults s.body

/-- A statement is written exactly when it has no fault. -/
theorem sql_eq_ok_iff (s : Statement) (sql : String) :
    s.sql = .ok sql ↔ s.faults = [] ∧ sql = s.body ++ ";" := conclude_eq_ok_iff _ _ _

end Statement

end SqlAssembly
