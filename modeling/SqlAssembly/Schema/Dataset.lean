import SqlAssembly.Schema.Table

/-!
# Datasets

* `Dataset` — `TABLE` and `COLUMNS`: a table together with the columns that are read from it.
* `Dataset.source` — `table_ref` as it is given; a dataset that overrides it is not represented.
-/

set_option autoImplicit false

namespace SqlAssembly

/-- A table and the columns that are read from it. -/
structure Dataset where
  /-- The name of the table. -/
  table : String
  columns : List String
  deriving DecidableEq, Repr

/-- The table of a dataset, shown under its own name. -/
def Dataset.source (d : Dataset) : Table := Table.named d.table

end SqlAssembly
