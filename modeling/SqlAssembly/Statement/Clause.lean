import SqlAssembly.Condition
import SqlAssembly.Schema.Table
import SqlAssembly.Statement.Fault

/-!
# What statements share

* `Target` — the table a statement works on, with a count of the tables it had to refuse.  `set` is
  `accept_table`.  An empty name is the only error that a statement stores, so their number says all
  that the stored list does; `refusals` is that list.
* `restriction` — the WHERE part of a statement.
* `sentence` — the parts of a statement in one line.
* `conclude` — `check` and `to_sql`: a statement is written only when it has no fault.
-/

set_option autoImplicit false

namespace SqlAssembly

/-- The table a statement works on.  A table without a name is refused and counted. -/
structure Target where
  /-- The table that was set last, unless it was refused. -/
  table : Option Table := none
  /-- How many tables were refused so far. -/
  refused : Nat := 0
  deriving DecidableEq, Repr

namespace Target

/-- One more table refused, for whatever part of the statement it was meant. -/
def refuse (t : Target) : Target := { t with refused := t.refused + 1 }

/-- Sets the table.  A refused one leaves the statement without a table, even if there was one
before. -/
def set (t : Target) (table : Table) : Target :=
  if table.isNamed then { t with table := some table } else { t.refuse with table := none }

/-- One fault for each table that was refused. -/
def refusals (t : Target) : List Fault := List.replicate t.refused .unnamedTable

/-- The fault of a statement without a table. -/
def missing (t : Target) : List Fault := if t.table.isNone then [.noTable] else []

/-- The table behind the word that introduces it, or nothing. -/
def behind (word : String) (t : Target) : List String :=
  match t.table with
  | none => []
  | some table => [word, table.sql]

/-- The table alone, or nothing. -/
def alone (t : Target) : List String := (t.table.map Table.sql).toList

theorem table_set (t : Target) (table : Table) :
    (t.set table).table = if table.isNamed then some table else none := by
  unfold set
  split <;> rfl

theorem refused_set (t : Target) (table : Table) :
    (t.set table).refused = if table.isNamed then t.refused else t.refused + 1 := by
  unfold set
  split <;> rfl

end Target

/-- The WHERE part of a statement. -/
def restriction (condition : Option Condition) : List String :=
  match condition with
  | none => []
  | some condition => ["WHERE", condition.text]

/-- The parts of a statement with a space between any two of them. -/
def sentence (parts : List String) : String := " ".intercalate parts

/-- The text of a statement with its closing semicolon, or its faults. -/
def conclude (faults : List Fault) (body : String) : Except Fault String :=
  match Fault.combine faults with
  | some fault => .error fault
  | none => .ok (body ++ ";")

/-- A statement is written exactly when it has no fault. -/
theorem conclude_eq_ok_iff (faults : List Fault) (body sql : String) :
    conclude faults body = .ok sql ↔ faults = [] ∧ sql = body ++ ";" := by
  unfold conclude
  cases h : Fault.combine faults with
  | none =>
    rw [Fault.combine_eq_none_iff] at h
    constructor
    · intro written
      exact ⟨h, by injection written with same; exact same.symm⟩
    · rintro ⟨-, rfl⟩
      rfl
  | some fault =>
    constructor
    · intro written
      cases written
    · rintro ⟨faultless, -⟩
      rw [← Fault.combine_eq_none_iff, h] at faultless
      cases faultless

end SqlAssembly
