import SqlAssembly.Condition.Predicate
import SqlAssembly.Text.Occurrence

/-!
# Conditions

A condition joins predicates by AND and OR.  Only a right operand is ever bracketed, and what
decides is its text: it is bracketed exactly when the other connective's word occurs in it,
whether as a connective or inside a name or a value.

* `Condition` — `Expr`: predicates joined by connectives.  An `Expr` holds its text alone; here the
  structure is kept, and the text is made from it.
* `Condition.and`, `Condition.or` — `and` and `or`.
* `Condition.text` — a condition as it stands in a statement.  `operand` is the test that `combine`
  makes of the right operand.
* `Condition.sameText` — equality of `Expr`: two conditions are the same when they are written the
  same.
-/

set_option autoImplicit false

namespace SqlAssembly

/-- The connectives between conditions. -/
inductive Connective where
  | and
  | or
  deriving DecidableEq, Repr

namespace Connective

def word : Connective → String
  | and => "AND"
  | or => "OR"

def other : Connective → Connective
  | and => or
  | or => and

end Connective

/-- Predicates joined by connectives. -/
inductive Condition where
  | leaf (predicate : Predicate)
  | join (connective : Connective) (left right : Condition)
  deriving DecidableEq, Repr

namespace Condition

/-- Both conditions hold. -/
def and (left right : Condition) : Condition := join .and left right

/-- One of the conditions holds. -/
def or (left right : Condition) : Condition := join .or left right

/-- A right operand behind `connective`: in brackets when the other connective's word occurs in
its text. -/
def operand (connective : Connective) (text : String) : String :=
  if mentions connective.other.word text then "(" ++ text ++ ")" else text

/-- A condition as it stands in a statement. -/
def text : Condition → String
  | leaf predicate => predicate.text
  | join connective left right =>
    left.text ++ " " ++ connective.word ++ " " ++ operand connective right.text

/-- Whether two conditions are written the same. -/
def sameText (a b : Condition) : Bool := a.text == b.text

theorem text_join (connective : Connective) (left right : Condition) :
    (join connective left right).text =
      left.text ++ " " ++ connective.word ++ " " ++ operand connective right.text := rfl

/-- An operand that never mentions the other connective is written as it is. -/
theorem operand_of_not_mentions {connective : Connective} {text : String}
    (h : mentions connective.other.word text = false) : operand connective text = text := by
  simp [operand, h]

theorem operand_of_mentions {connective : Connective} {text : String}
    (h : mentions connective.other.word text = true) :
    operand connective text = "(" ++ text ++ ")" := by
  simp [operand, h]

end Condition

end SqlAssembly
