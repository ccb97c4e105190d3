import SqlAssembly.Schema.Identifier

/-!
# Flaws of a declaration

* `Flaw` — why a declaration describes no dataset: the errors of `expand`, of `DbAttr::parse` and of
  the reading of words.
* `Flaw.message` — its wording.
-/

set_option autoImplicit false

namespace SqlAssembly

/-- Why a declaration describes no dataset. -/
inductive Flaw where
  /-- A reserved word where a name belongs. -/
  | reserved (word : String)
  /-- Something else than a word where a name or an option belongs. -/
  | noWord
  /-- An option that does not exist. -/
  | unknownOption (word : String)
  /-- No equals sign behind an option that takes a text. -/
  | noEquals
  /-- Nothing behind the equals sign. -/
  | noText
  /-- Something else than a text behind the equals sign. -/
  | otherThanText
  /-- Something behind an option that does not separate it from the next one. -/
  | excess
  /-- An attribute without its list of options. -/
  | noOptions
  /-- An attribute with a value in place of its list of options. -/
  | valueForOptions
  /-- A declaration with fields that have no names. -/
  | namelessFields
  /-- A declaration that is no record at all. -/
  | noRecord
  /-- The option of a field on the record. -/
  | columnOnRecord
  /-- The option of a record on a field. -/
  | tableOnField
  /-- A name that is no table or column. -/
  | badName (fault : NameFault)
  /-- Two fields with one column. -/
  | repeatedColumn (column : String)
  deriving DecidableEq, Repr

def Flaw.message : Flaw → String
  | reserved word => "expected identifier, found keyword `" ++ word ++ "`"
  | noWord => "expected identifier"
  | unknownOption word =>
    "unknown db attribute `" ++ word ++ "` (expected table, column or skip)"
  | noEquals => "expected `=`"
  | noText => "unexpected end of input, expected string literal"
  | otherThanText => "expected string literal"
  | excess => "unexpected token"
  | noOptions => "expected attribute arguments in parentheses: #[db(...)]"
  | valueForOptions => "expected parentheses: #[db(...)]"
  | namelessFields => "Dataset can only be derived for structs with named fields"
  | noRecord => "Dataset can only be derived for structs"
  | columnOnRecord => "`column` is a field attribute; use `table` on the struct"
  | tableOnField => "`table` is a struct attribute"
  | badName fault => fault.message
  | repeatedColumn column => "duplicate column '" ++ column ++ "'"

end SqlAssembly
