import SqlAssembly.Text.Blank

/-!
# Identifiers

An identifier starts with an ASCII letter or an underscore and goes on with ASCII letters, digits
and underscores.

* `isIdentifier` — `is_valid_sql_ident`: whether a text is an identifier.
* `readIdentifier` — `parse_sql_ident`: an identifier with blanks around it.
* `readTableName` — `parse_table_name`: identifiers with points between them, with blanks around the
  whole.
* `NameFault` — why a text is neither, with the wording of the two.
-/

set_option autoImplicit false

namespace SqlAssembly

/-- The characters an identifier can start with. -/
def startsIdentifier (c : Char) : Bool := c.isAlpha || c == '_'

/-- The characters an identifier can go on with. -/
def continuesIdentifier (c : Char) : Bool := c.isAlphanum || c == '_'

/-- Whether characters form an identifier. -/
def formIdentifier : List Char → Bool
  | [] => false
  | c :: rest => startsIdentifier c && rest.all continuesIdentifier

/-- Whether a text is an identifier. -/
def isIdentifier (text : String) : Bool := formIdentifier text.toList

/-- Why a text is not the name it should be. -/
inductive NameFault where
  /-- There is nothing but blanks. -/
  | blank (subject : String)
  /-- It is no identifier. -/
  | noIdentifier (subject : String)
  /-- It is no table name. -/
  | noTableName (name : String)
  deriving DecidableEq, Repr

def NameFault.message : NameFault → String
  | blank subject => subject ++ " must not be empty"
  | noIdentifier subject =>
    subject ++ " must be a valid SQL identifier (expected [A-Za-z_][A-Za-z0-9_]*)"
  | noTableName name =>
    "table name '" ++ name ++ "' must be `table` or `schema.table` with valid SQL identifiers"

/-- Reads an identifier; `subject` says in a fault what it should name. -/
def readIdentifier (subject text : String) : Except NameFault String :=
  let name := trim text
  if name = "" then .error (.blank subject)
  else if isIdentifier name then .ok name
  else .error (.noIdentifier subject)

/-- Whether the parts of a text between its points are identifiers. -/
def isTableName (text : String) : Bool := (text.toList.splitOn '.').all formIdentifier

/-- Reads the name of a table: identifiers with points between them, however many. -/
def readTableName (text : String) : Except NameFault String :=
  let name := trim text
  if name = "" then .error (.blank "table name")
  else if isTableName name then .ok name
  else .error (.noTableName name)

/-- What an identifier can start with it can go on with. -/
theorem continuesIdentifier_of_starts {c : Char} (h : startsIdentifier c = true) :
    continuesIdentifier c = true := by
  simp only [startsIdentifier, continuesIdentifier, Char.isAlphanum, Bool.or_eq_true] at *
  rcases h with letter | underscore
  · exact Or.inl (Or.inl letter)
  · exact Or.inr underscore

/-- Every character of an identifier is an ASCII letter, a digit or an underscore. -/
theorem continuesIdentifier_of_mem {chars : List Char} (h : formIdentifier chars = true) :
    ∀ c ∈ chars, continuesIdentifier c = true := by
  cases chars with
  | nil => intro c found; cases found
  | cons first rest =>
    simp only [formIdentifier, Bool.and_eq_true, List.all_eq_true] at h
    intro c found
    rcases List.mem_cons.1 found with rfl | later
    · exact continuesIdentifier_of_starts h.1
    · exact h.2 c later

end SqlAssembly
