import Mathlib.Algebra.Order.Field.Power
import Mathlib.Algebra.Order.Field.Rat
import Mathlib.Algebra.Ring.Parity
import Mathlib.Tactic.FieldSimp
import Mathlib.Tactic.Linarith
import Mathlib.Tactic.Positivity
import Mathlib.Tactic.Ring
import SqlAssembly.Number.Binary32
import SqlAssembly.Number.Rounding

/-!
# Exact values and the whole numbers nearest to them

* `fieldValue`, `Binary64.value`, `Binary32.value` — the value of a finite number as a fraction.
* `Binary64.abs_value` — its size is that of its units, of which `Binary64.unitsPerOne` make one.
* `Binary32.value_widen` — a single precision number keeps its value in double precision.
* `IsNearest` — a whole number nearest to a fraction, and the even one of two.
* `isNearest_roundHalfEven` — rounding finds it.
* `IsNearest.mono` — a greater fraction has no smaller nearest number.
-/

set_option autoImplicit false

namespace SqlAssembly

/-! ## Values -/

/-- The size of a finite number in a format with `places` binary places and the bias `bias`: without
a leading bit for the exponent field zero, and with it for all others. -/
def fieldValue (bias places exponent fraction : ℕ) : ℚ :=
  if exponent = 0 then fraction / 2 ^ places * 2 ^ (1 - bias : ℤ)
  else (1 + fraction / 2 ^ places) * 2 ^ (exponent - bias : ℤ)

namespace Binary64

/-- The size of a finite number. -/
def magnitude (x : Binary64) : ℚ := fieldValue 1023 52 x.exponent.val x.fraction.val

/-- The value of a finite number. -/
def value (x : Binary64) : ℚ := (if x.negative then -1 else 1) * x.magnitude

end Binary64

namespace Binary32

/-- The size of a finite number. -/
def magnitude (x : Binary32) : ℚ := fieldValue 127 23 x.exponent.val x.fraction.val

/-- The value of a finite number. -/
def value (x : Binary32) : ℚ := (if x.negative then -1 else 1) * x.magnitude

end Binary32

/-- Both ranges of the exponent field count the same unit. -/
theorem fieldValue_eq (bias places exponent fraction : ℕ) :
    fieldValue (bias + 1) places exponent fraction =
      (if exponent = 0 then fraction else 2 ^ places + fraction : ℕ) * 2 ^ (exponent - 1) /
        2 ^ (bias + places) := by
  unfold fieldValue
  split
  · rename_i subnormal
    have scale : (1 - (bias + 1 : ℕ) : ℤ) = -(bias : ℤ) := by omega
    rw [scale, zpow_neg, zpow_natCast, subnormal, pow_add]
    field_simp
    simp
  · rename_i normal
    obtain ⟨e, rfl⟩ := Nat.exists_eq_succ_of_ne_zero normal
    have scale : ((e.succ : ℕ) - (bias + 1 : ℕ) : ℤ) = (e : ℤ) - bias := by omega
    rw [scale, zpow_sub₀ two_ne_zero, zpow_natCast, zpow_natCast, pow_add, Nat.succ_sub_one]
    push_cast
    field_simp

theorem fieldValue_nonneg (bias places exponent fraction : ℕ) :
    0 ≤ fieldValue bias places exponent fraction := by
  unfold fieldValue
  split <;> positivity

theorem abs_sign_mul (negative : Bool) {size : ℚ} (h : 0 ≤ size) :
    |(if negative then -1 else 1) * size| = size := by
  cases negative <;> simp [abs_of_nonneg h]

namespace Binary64

theorem abs_value (x : Binary64) : |x.value| = x.magnitude :=
  abs_sign_mul x.negative (fieldValue_nonneg ..)

theorem cast_unitsPerOne : (unitsPerOne : ℚ) = 2 ^ binaryPlaces := by
  rw [unitsPerOne, Nat.one_shiftLeft]
  push_cast
  rfl

/-- A number is as large as its units say. -/
theorem magnitude_eq (x : Binary64) : x.magnitude = x.units / unitsPerOne := by
  rw [magnitude, fieldValue_eq 1022 52, units, significand, Nat.shiftLeft_eq, cast_unitsPerOne]
  push_cast
  norm_num [binaryPlaces]

end Binary64

namespace Binary32

variable {x : Binary32}

theorem magnitude_eq (x : Binary32) : x.magnitude = x.units / 2 ^ 149 := by
  rw [magnitude, fieldValue_eq 126 23, units, significand, Nat.shiftLeft_eq]
  push_cast
  norm_num

theorem exponent_ne_of_isFinite (finite : x.isFinite = true) : x.exponent.val ≠ 255 := by
  simpa [isFinite] using finite

theorem isFinite_widen (finite : x.isFinite = true) : x.widen.isFinite = true := by
  have normal := exponent_ne_of_isFinite finite
  have bound := x.exponent.isLt
  unfold widen
  rw [if_neg normal]
  split
  · split
    · rfl
    · rename_i positive
      have place : x.fraction.val.log2 < 23 := (Nat.log2_lt positive).2 x.fraction.isLt
      simp only [Binary64.isFinite, Fin.val_ofNat, bne_iff_ne]
      omega
  · simp only [Binary64.isFinite, Fin.val_ofNat, bne_iff_ne]
    omega

theorem magnitude_widen (finite : x.isFinite = true) : x.widen.magnitude = x.magnitude := by
  have cancel : ∀ count places : ℕ,
      ((count * 2 ^ places : ℕ) : ℚ) / 2 ^ (149 + places) = count / 2 ^ 149 := by
    intro count places
    rw [pow_add]
    push_cast
    field_simp
  have places : Binary64.binaryPlaces = 149 + scale := rfl
  rw [Binary64.magnitude_eq, magnitude_eq, units_widen x (exponent_ne_of_isFinite finite),
    Nat.shiftLeft_eq, Binary64.cast_unitsPerOne, places, cancel]

/-- Widening keeps the value. -/
theorem value_widen (finite : x.isFinite = true) : x.widen.value = x.value := by
  rw [Binary64.value, value, widen_negative, magnitude_widen finite]

end Binary32

/-! ## The nearest whole number -/

/-- `n` is as near to `q` as a whole number can be, and even if another one is as near. -/
structure IsNearest (q : ℚ) (n : ℤ) : Prop where
  near : |q - n| ≤ 1 / 2
  even : |q - n| = 1 / 2 → Even n

namespace IsNearest

variable {q r : ℚ} {m n : ℤ}

theorem neg (h : IsNearest q n) : IsNearest (-q) (-n) := by
  have mirrored : |-q - (-n : ℤ)| = |q - n| := by
    rw [← abs_neg]
    push_cast
    congr 1
    ring
  exact ⟨mirrored ▸ h.near, fun tie => (h.even (mirrored ▸ tie)).neg⟩

/-- If the numbers were in the other order, both fractions would lie half-way between them, and one
of the two is odd. -/
theorem mono (hm : IsNearest q m) (hn : IsNearest r n) (le : q ≤ r) : m ≤ n := by
  by_contra crossed
  have apart : (n : ℚ) + 1 ≤ m := by exact_mod_cast not_le.1 crossed
  have below := abs_le.1 hm.near
  have above := abs_le.1 hn.near
  have next : (m : ℚ) = n + 1 := by linarith
  have tie : |q - m| = 1 / 2 := by
    rw [abs_of_nonpos] <;> linarith
  have tie' : |r - n| = 1 / 2 := by
    rw [abs_of_nonneg] <;> linarith
  have odd : m = n + 1 := by exact_mod_cast next
  exact absurd (odd ▸ hm.even tie) (Int.not_even_iff_odd.2 (hn.even tie').add_one)

end IsNearest

/-- Rounding leaves at most one half, and exactly one half only when it had the choice. -/
theorem isNearest_roundHalfEven (num : ℕ) {den : ℕ} (positive : 0 < den) :
    IsNearest (num / den) (roundHalfEven num den) := by
  have below := roundHalfEven_le num den
  have above := le_roundHalfEven num den positive
  have halfway := tie_of_halfway num den positive
  have even := even_of_tie num den
  generalize roundHalfEven num den = n at *
  have positive' : (0 : ℚ) < den := by exact_mod_cast positive
  have below' : (2 * (den * n) : ℚ) ≤ 2 * num + den := by exact_mod_cast below
  have above' : (2 * num : ℚ) ≤ 2 * (den * n) + den := by exact_mod_cast above
  have distance : |(num / den : ℚ) - (n : ℤ)| = |(num - den * n : ℚ)| / den := by
    rw [← abs_of_pos positive', ← abs_div, abs_of_pos positive']
    congr 1
    push_cast
    field_simp
  constructor
  · rw [distance, div_le_iff₀ positive', abs_le]
    constructor <;> linarith
  · intro tie
    rw [distance, div_eq_iff positive'.ne', abs_eq (by positivity)] at tie
    have half : 2 * num = 2 * (den * n) + den ∨ 2 * num + den = 2 * (den * n) := by
      rcases tie with up | down
      · left
        have : (2 * num : ℚ) = 2 * (den * n) + den := by linarith
        exact_mod_cast this
      · right
        have : (2 * num + den : ℚ) = 2 * (den * n) := by linarith
        exact_mod_cast this
    have := even (halfway half)
    exact (Int.even_coe_nat n).2 (Nat.even_iff.2 this)

end SqlAssembly
