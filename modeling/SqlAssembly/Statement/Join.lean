import SqlAssembly.Condition
import SqlAssembly.Schema.Table

/-!
# Joined tables

* `Join` — a further table of a SELECT, the way it is joined (`JoinKind`) and the conditions it is
  joined on (`IntoConditions`).
* `Join.sql` — `to_sql`: how it is written; the conditions stand side by side with AND between them,
  and none of them is bracketed.
-/

set_option autoImplicit false

namespace SqlAssembly

/-- The ways of joining a table. -/
inductive Join.Kind where
  | inner
  | left
  | right
  | full
  | cross
  deriving DecidableEq, Repr

def Join.Kind.words : Join.Kind → String
  | inner => "INNER JOIN"
  | left => "LEFT JOIN"
  | right => "RIGHT JOIN"
  | full => "FULL JOIN"
  | cross => "CROSS JOIN"

/-- A further table of a SELECT. -/
structure Join where
  kind : Join.Kind
  table : Table
  conditions : List Condition
  deriving DecidableEq, Repr

namespace Join

/-- The conditions of a join with AND between them, or nothing when there are none. -/
def on (conditions : List Condition) : String :=
  if conditions.isEmpty then "" else " ON " ++ " AND ".intercalate (conditions.map Condition.text)

/-- A joined table as it stands in a SELECT. -/
def sql (j : Join) : String := j.kind.words ++ " " ++ j.table.sql ++ on j.conditions

theorem on_nil : on [] = "" := rfl

end Join

end SqlAssembly
