import SqlAssembly.Number.Binary64
import SqlAssembly.Number.Rounding

/-!
# Decimal text of numbers

The text of a number at a precision of six decimals, as `Value::format` asks for it.

* `Binary64.millionths` — a finite number as a whole count of millionths, rounded half to even
  from its exact value.
* `Binary64.decimal` — the text of a number: fixed point with six decimals, never an exponent.
-/

set_option autoImplicit false

namespace SqlAssembly

/-- The decimal digits of `n`, filled up with zeros on the left to at least `width` digits. -/
def paddedDigits (width n : Nat) : List Char := (Nat.toDigits 10 n).leftpad width '0'

theorem isDigit_of_mem_paddedDigits {width n : Nat} {c : Char} (h : c ∈ paddedDigits width n) :
    c.isDigit = true := by
  rw [paddedDigits, List.leftpad, List.mem_append] at h
  rcases h with zero | digit
  · rw [List.eq_of_mem_replicate zero]
    rfl
  · exact Nat.isDigit_of_mem_toDigits (by decide) (by decide) digit

/-- A count of millionths in fixed point: the whole part, a point and six digits. -/
def fixedPoint (millionths : Nat) : String :=
  toString (millionths / 1000000) ++ "." ++ String.ofList (paddedDigits 6 (millionths % 1000000))

namespace Binary64

/-- The size of a finite number in millionths, rounded half to even from its exact value. -/
def millionths (x : Binary64) : Nat := roundHalfEven (x.units * 1000000) unitsPerOne

/-- Fixed point text with six decimals.  The sign of a negative number stays when every digit is
zero; NaN has no sign. -/
def decimal (x : Binary64) : String :=
  if x.isNaN then "NaN"
  else
    let sign := if x.negative then "-" else ""
    if x.isFinite then sign ++ fixedPoint x.millionths else sign ++ "inf"

end Binary64

end SqlAssembly
