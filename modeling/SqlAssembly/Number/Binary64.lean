/-!
# IEEE 754 double precision numbers

* `Binary64` — a sign, an exponent field of 11 bits and a fraction of 52 bits.
* `Binary64.ofWord` — the number whose bit pattern is a given 64-bit word.
* `Binary64.units` — the size of a finite number, counted in the least positive number
  `2 ^ -1074`; every finite number is a whole count of those.
* `Binary64.sameNumber` — the comparison of numbers: NaN differs from everything, and the two
  zeros are one number.
-/

set_option autoImplicit false

namespace SqlAssembly

/-- A double precision number by the three fields of its interchange format. -/
structure Binary64 where
  negative : Bool
  exponent : Fin 2048
  fraction : Fin 4503599627370496
  deriving DecidableEq, Repr

namespace Binary64

/-- The number whose bit pattern, the sign in the highest bit, is `word`. -/
def ofWord (word : UInt64) : Binary64 where
  negative := word.toNat >>> 63 == 1
  exponent := ⟨word.toNat >>> 52 % 2048, Nat.mod_lt _ (by decide)⟩
  fraction := ⟨word.toNat % 4503599627370496, Nat.mod_lt _ (by decide)⟩

/-- Neither an infinity nor NaN. -/
def isFinite (x : Binary64) : Bool := x.exponent.val != 2047

/-- Not a number: the highest exponent with a fraction. -/
def isNaN (x : Binary64) : Bool := x.exponent.val == 2047 && x.fraction.val != 0

/-- The fraction with the leading bit that a normal number leaves out. -/
def significand (x : Binary64) : Nat :=
  if x.exponent.val = 0 then x.fraction.val else 4503599627370496 + x.fraction.val

/-- The size of a finite number as a count of `2 ^ -1074`.  The exponent fields 0 and 1 share
one scale, which the truncated subtraction expresses. -/
def units (x : Binary64) : Nat := x.significand <<< (x.exponent.val - 1)

/-- The binary places of the least positive number, `2 ^ -1074`. -/
def binaryPlaces : Nat := 1074

/-- How many times the least positive number goes into one. -/
def unitsPerOne : Nat := 1 <<< binaryPlaces

/-- Whether two numbers are equal as numbers: NaN equals nothing, and zero equals zero whatever
its sign. -/
def sameNumber (x y : Binary64) : Bool :=
  !x.isNaN && !y.isNaN && (x == y || (x.isFinite && y.isFinite && x.units == 0 && y.units == 0))

theorem unitsPerOne_pos : 0 < unitsPerOne := by
  unfold unitsPerOne
  rw [Nat.one_shiftLeft]
  exact Nat.two_pow_pos binaryPlaces

end Binary64

end SqlAssembly
