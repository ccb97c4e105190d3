import SqlAssembly.Arguments
import SqlAssembly.Value

/-!
# Predicates

A predicate tests one column.  The column is its target and is written as given; the values
follow as literals.

* `Predicate` — the tests a condition is built from.  `compare` covers `eq`, `ne`, `gt`, `gte`,
  `lt`, `lte`, `like` and `not_like`; `holds` covers `starts_with`, `ends_with` and `contains` with
  their negations; `between` and `oneOf` cover `between` and `in_list` with theirs; `test` covers
  `is_null`, `is_true` and `is_false` with theirs; `verbatim` is `raw`.
* `Predicate.text` — how a test is written: `compare`, `pattern`, `range`, `membership` and `unary`.
* `Predicate.among` — `in_list` and `not_in` of a grouped argument.
-/

set_option autoImplicit false

namespace SqlAssembly

/-- The comparisons with one value. -/
inductive Comparison where
  | equal
  | different
  | greater
  | greaterOrEqual
  | less
  | lessOrEqual
  | like
  | notLike
  deriving DecidableEq, Repr

def Comparison.symbol : Comparison → String
  | equal => "="
  | different => "!="
  | greater => ">"
  | greaterOrEqual => ">="
  | less => "<"
  | lessOrEqual => "<="
  | like => "LIKE"
  | notLike => "NOT LIKE"

/-- Where in a column a text is looked for. -/
inductive Place where
  | start
  | finish
  | anywhere
  deriving DecidableEq, Repr

/-- The pattern that finds `text` at a place: a percent sign stands for all that may lie before
or behind it. -/
def Place.pattern (text : String) : Place → String
  | start => text ++ "%"
  | finish => "%" ++ text
  | anywhere => "%" ++ text ++ "%"

/-- The tests without a value. -/
inductive Test where
  | isNull
  | isNotNull
  | isTrue
  | isNotTrue
  | isFalse
  | isNotFalse
  deriving DecidableEq, Repr

def Test.words : Test → String
  | isNull => "IS NULL"
  | isNotNull => "IS NOT NULL"
  | isTrue => "= true"
  | isNotTrue => "!= true"
  | isFalse => "= false"
  | isNotFalse => "!= false"

/-- A test of one column. -/
inductive Predicate where
  /-- The column against a value. -/
  | compare (target : String) (comparison : Comparison) (value : Value)
  /-- The column holds a value's text at a place. -/
  | holds (target : String) (negated : Bool) (place : Place) (value : Value)
  /-- The column lies between two values. -/
  | between (target : String) (negated : Bool) (low high : Value)
  /-- The column is one of a list of values. -/
  | oneOf (target : String) (negated : Bool) (values : List Value)
  /-- The column is null, true or false. -/
  | test (target : String) (asked : Test)
  /-- A text that is taken as it is. -/
  | verbatim (text : String)
  deriving DecidableEq, Repr

namespace Predicate

/-- The column is one of the values of a grouped argument. -/
def among (target : String) (negated : Bool) (values : Arguments Value) : Predicate :=
  oneOf target negated (values.push [])

/-- A keyword, or its negation. -/
def keyword (negated : Bool) (word : String) : String := if negated then "NOT " ++ word else word

/-- A test as it stands in a statement. -/
def text : Predicate → String
  | compare target comparison value =>
    target ++ " " ++ comparison.symbol ++ " " ++ value.literal
  | holds target negated place value =>
    target ++ " " ++ keyword negated "LIKE" ++ " " ++ quoted (place.pattern value.plain)
  | between target negated low high =>
    target ++ " " ++ keyword negated "BETWEEN" ++ " " ++ low.literal ++ " TO " ++ high.literal
  | oneOf target negated values =>
    target ++ " " ++ keyword negated "IN" ++ " (" ++ Value.listing values ++ ")"
  | test target asked => target ++ " " ++ asked.words
  | verbatim text => text

/-- Only the items of a grouped argument matter, and not how they are grouped. -/
theorem among_eq (target : String) (negated : Bool) (values : Arguments Value) :
    among target negated values = oneOf target negated values.toList := by
  simp [among, Arguments.push_eq]

/-- Looking for a value at a place is a comparison with the pattern as a text. -/
theorem text_holds (target : String) (negated : Bool) (place : Place) (value : Value) :
    (holds target negated place value).text =
      (compare target (if negated then .notLike else .like)
        (.text (place.pattern value.plain))).text := by
  cases negated <;> rfl

end Predicate

end SqlAssembly
