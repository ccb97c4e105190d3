import SqlAssembly.Declaration.Options
import SqlAssembly.Schema.Dataset
import SqlAssembly.Text.SnakeCase

/-!
# Datasets from declarations

A record with named fields describes a dataset: the record is the table and the fields are its
columns, unless options say otherwise.  This models `expand`, together with the words that are
rejected before it, when the declaration is read.

* `Declaration` — a declared type with its attributes.
* `Declaration.spelled` — the names and paths of a declaration, in the order in which they are
  written, must be words that can serve as such.
* `Field.column` — the column of a field, if it has one: the body of the loop over the fields, up to
  the look at the columns before it, which is `addColumn`.
* `Declaration.table`, `columnsOf` — the two halves of a dataset, `TABLE` and `COLUMNS`.
* `Declaration.dataset` — the dataset that a declaration describes, or its first flaw: names come
  before the shape, the record before its fields, and the fields in their order.
-/

set_option autoImplicit false

namespace SqlAssembly

/-- A named field of a declaration. -/
structure Field where
  name : Word
  attributes : List Attribute
  deriving DecidableEq, Repr

/-- The shapes of a declared type. -/
inductive Shape where
  /-- A record with named fields. -/
  | record (fields : List Field)
  /-- A record whose fields have positions only, each given by its attributes. -/
  | tuple (fields : List (List Attribute))
  /-- A record without fields. -/
  | unit
  /-- A choice between variants. -/
  | variants
  /-- Named fields of which one is there at a time. -/
  | union (fields : List Field)
  deriving DecidableEq, Repr

/-- A declared type. -/
structure Declaration where
  name : Word
  attributes : List Attribute
  shape : Shape
  deriving DecidableEq, Repr

/-! ## Spelling -/

/-- The path of an attribute must be able to serve as one, also where the attribute is ignored. -/
def Attribute.spelled (a : Attribute) : Except Flaw Unit :=
  if a.path.isPath then .ok () else .error (.reserved a.path.written)

/-- Attributes stand in front of the name of a field.  A field named like the mark of a public
one has that mark and no name. -/
def Field.spelled (f : Field) : Except Flaw Unit := do
  f.attributes.forM Attribute.spelled
  if f.name.isVisibility then .error .noWord
  else if f.name.isReserved then .error (.reserved f.name.written)
  else .ok ()

/-- Spells the fields of a shape in their order.  Of fields without names only the attributes are
there. -/
def Shape.spelled : Shape → Except Flaw Unit
  | record fields => fields.forM Field.spelled
  | tuple fields => fields.forM fun attributes => attributes.forM Attribute.spelled
  | unit => .ok ()
  | variants => .ok ()
  | union fields => fields.forM Field.spelled

/-- Attributes stand in front of the name of a type, and its fields behind it.  Not even an
underscore names a type. -/
def Declaration.spelled (d : Declaration) : Except Flaw Unit := do
  d.attributes.forM Attribute.spelled
  if d.name.isReserved || d.name.isUnderscore then .error (.reserved d.name.written)
  else d.shape.spelled

/-! ## Columns and tables -/

namespace Field

/-- The column of a field, or nothing for a skipped field.  The text of the option `column` goes
before the name of the field, and a raw name goes without its mark. -/
def column (f : Field) : Except Flaw (Option String) :=
  match readOptions f.attributes with
  | .error flaw => .error flaw
  | .ok options =>
    if options.table.isSome then .error .tableOnField
    else if options.skip then .ok none
    else
      match readIdentifier "column" (options.column.getD f.name.text) with
      | .error fault => .error (.badName fault)
      | .ok column => .ok (some column)

end Field

/-- Puts the column of a field behind the columns of the fields before it. -/
def addColumn (columns : List String) (f : Field) : Except Flaw (List String) :=
  match f.column with
  | .error flaw => .error flaw
  | .ok none => .ok columns
  | .ok (some column) =>
    if columns.contains column then .error (.repeatedColumn column)
    else .ok (columns ++ [column])

/-- The columns of fields, of which no two may be the same. -/
def columnsOf (fields : List Field) : Except Flaw (List String) := fields.foldlM addColumn []

namespace Declaration

/-- The fields that columns are made of. -/
def fields (d : Declaration) : Except Flaw (List Field) :=
  match d.shape with
  | .record fields => .ok fields
  | .tuple _ => .error .namelessFields
  | .unit => .error .namelessFields
  | .variants => .error .noRecord
  | .union _ => .error .noRecord

/-- The table of a declaration: the text of the option `table`, or else the name of the type in
snake case, with the mark of a raw name as a word of its own. -/
def table (d : Declaration) : Except Flaw String :=
  match readOptions d.attributes with
  | .error flaw => .error flaw
  | .ok options =>
    if options.column.isSome then .error .columnOnRecord
    else
      match options.table with
      | none => .ok (snakeCase d.name.written)
      | some text =>
        match readTableName text with
        | .error fault => .error (.badName fault)
        | .ok name => .ok name

/-- The dataset that a declaration describes, or its first flaw. -/
def dataset (d : Declaration) : Except Flaw Dataset := do
  d.spelled
  let fields ← d.fields
  let table ← d.table
  let columns ← columnsOf fields
  return { table, columns }

end Declaration

/-- The columns of more fields are found by going on from those found so far. -/
theorem columnsOf_append (first second : List Field) :
    columnsOf (first ++ second) = (columnsOf first).bind (second.foldlM addColumn ·) := by
  simp only [columnsOf, List.foldlM_append]
  rfl

end SqlAssembly
