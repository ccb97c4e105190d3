/-!
# Tables and columns

* `Table` — `TableRef`: a table under the name it is stored under and the name a statement shows it
  under.  `shownAs` is `alias` and `set_alias`, `isRenamed` is `is_aliased`, and `isNamed` is the
  opposite of `is_empty`.
* `Column` — `ColumnRef`: a column together with the name its table was shown under when it was
  taken by `col`; renaming the table later leaves it as it is.
* `Table.sql`, `Column.text` — `to_sql`: how they are written in a statement.
-/

set_option autoImplicit false

namespace SqlAssembly

/-- A table of the database, possibly shown under another name. -/
structure Table where
  /-- The name the table is stored under. -/
  base : String
  /-- The name the statement shows it under. -/
  display : String
  deriving DecidableEq, Repr

/-- A column of a table. -/
structure Column where
  /-- The name its table was shown under when the column was taken. -/
  table : String
  name : String
  deriving DecidableEq, Repr

/-- A column is written behind its table's name and a point. -/
def Column.text (c : Column) : String := c.table ++ "." ++ c.name

namespace Table

/-- A table shown under its own name. -/
def named (name : String) : Table := ⟨name, name⟩

/-- The same table shown under `display`; an earlier display name is forgotten. -/
def shownAs (t : Table) (display : String) : Table := { t with display }

/-- Whether the table is shown under another name than its own. -/
def isRenamed (t : Table) : Bool := t.display != t.base

/-- Whether the table can stand in a statement: neither of its names is empty. -/
def isNamed (t : Table) : Bool := t.base != "" && t.display != ""

/-- A column of the table under the name the table is shown under now. -/
def column (t : Table) (name : String) : Column := ⟨t.display, name⟩

/-- How a statement introduces the table. -/
def sql (t : Table) : String := if t.isRenamed then t.base ++ " AS " ++ t.display else t.base

theorem sql_named (name : String) : (named name).sql = name := by simp [sql, isRenamed, named]

theorem isNamed_named (name : String) : (named name).isNamed = (name != "") := by
  simp [isNamed, named]

end Table

end SqlAssembly
