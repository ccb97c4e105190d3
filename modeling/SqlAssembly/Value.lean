import SqlAssembly.Number.Decimal
import SqlAssembly.Schema.Table

/-!
# Values

Values stand in a statement as text; nothing inside a text value is escaped.

* `Value.plain`, `Value.literal` — `format` and `to_sql`: a value without and with the quotes around
  a text.
* `Value.listing` — `format_list`: a list of values as it stands between the brackets of a
  membership test.
* `Value.same` — equality of two values.
-/

set_option autoImplicit false

namespace SqlAssembly

/-- A scalar on the value side of a clause. -/
inductive Value where
  | text (content : String)
  | int (number : Int)
  | float (number : Binary64)
  | bool (flag : Bool)
  | column (column : Column)
  | null
  deriving DecidableEq, Repr

/-- A text between single quotes.  Quotes inside it stay as they are. -/
def quoted (text : String) : String := "'" ++ text ++ "'"

namespace Value

def isText : Value → Bool
  | text _ => true
  | _ => false

/-- A value without quotes. -/
def plain : Value → String
  | text content => content
  | int number => toString number
  | float number => number.decimal
  | bool flag => if flag then "true" else "false"
  | column c => c.text
  | null => "NULL"

/-- A value as a literal: a text is quoted, and nothing else is. -/
def literal (v : Value) : String := if v.isText then quoted v.plain else v.plain

/-- A list of values between the brackets of a membership test.  One text among them is enough
to have every value quoted. -/
def listing (values : List Value) : String :=
  if values.any isText then quoted ("', '".intercalate (values.map plain))
  else ", ".intercalate (values.map literal)

/-- Whether two values are of one kind and hold the same; floating point numbers are compared as
numbers. -/
def same : Value → Value → Bool
  | float x, float y => x.sameNumber y
  | v, w => v == w

theorem literal_of_not_isText {v : Value} (h : v.isText = false) : v.literal = v.plain := by
  simp [literal, h]

end Value

end SqlAssembly
