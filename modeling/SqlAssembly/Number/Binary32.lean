import SqlAssembly.Number.Binary64

/-!
# IEEE 754 single precision numbers

* `Binary32` — a sign, an exponent field of 8 bits and a fraction of 23 bits.
* `Binary32.widen` — `f64::from`: the same number in double precision, as a `Value` holds it.  Every
  single precision number is a double precision one, so nothing is rounded; a subnormal one becomes
  normal.
* `Binary32.units_widen` — the size of a finite number is kept.
-/

set_option autoImplicit false

namespace SqlAssembly

/-- A single precision number by the three fields of its interchange format. -/
structure Binary32 where
  negative : Bool
  exponent : Fin 256
  fraction : Fin 8388608
  deriving DecidableEq, Repr

namespace Binary32

/-- The number whose bit pattern, the sign in the highest bit, is `word`. -/
def ofWord (word : UInt32) : Binary32 where
  negative := word.toNat >>> 31 == 1
  exponent := ⟨word.toNat >>> 23 % 256, Nat.mod_lt _ (by decide)⟩
  fraction := ⟨word.toNat % 8388608, Nat.mod_lt _ (by decide)⟩

/-- Neither an infinity nor NaN. -/
def isFinite (x : Binary32) : Bool := x.exponent.val != 255

/-- The fraction with the leading bit that a normal number leaves out. -/
def significand (x : Binary32) : Nat :=
  if x.exponent.val = 0 then x.fraction.val else 8388608 + x.fraction.val

/-- The size of a finite number as a count of the least positive one, `2 ^ -149`. -/
def units (x : Binary32) : Nat := x.significand <<< (x.exponent.val - 1)

/-- The same number in double precision.  A subnormal number has no leading bit of its own: its
highest set bit, at place `k`, becomes the leading bit and fixes the exponent. -/
def widen (x : Binary32) : Binary64 :=
  if x.exponent.val = 255 then
    ⟨x.negative, 2047, ⟨x.fraction.val * 536870912, by have := x.fraction.isLt; omega⟩⟩
  else if x.exponent.val = 0 then
    if x.fraction.val = 0 then ⟨x.negative, 0, 0⟩
    else
      let k := x.fraction.val.log2
      ⟨x.negative, Fin.ofNat _ (k + 874), Fin.ofNat _ (x.fraction.val <<< (52 - k))⟩
  else
    ⟨x.negative, Fin.ofNat _ (x.exponent.val + 896),
      ⟨x.fraction.val * 536870912, by have := x.fraction.isLt; omega⟩⟩

/-- How many times the least positive double precision number goes into the least positive single
precision one, as a power of two. -/
def scale : Nat := 925

/-- A finite number keeps its size: only the unit it is counted in changes. -/
theorem units_widen (x : Binary32) (h : x.exponent.val ≠ 255) :
    x.widen.units = x.units <<< scale := by
  have bound := x.exponent.isLt
  have small := x.fraction.isLt
  unfold widen
  rw [if_neg h]
  split
  · rename_i subnormal
    split
    · rename_i zero
      simp [units, significand, Binary64.units, Binary64.significand, subnormal, zero]
    · rename_i positive
      have low := Nat.log2_self_le positive
      have high := @Nat.lt_log2_self x.fraction.val
      have place : x.fraction.val.log2 < 23 := by
        rw [Nat.log2_lt positive]
        exact small
      generalize hk : x.fraction.val.log2 = k at *
      have shifted : 2 ^ k * 2 ^ (52 - k) = 4503599627370496 := by
        rw [← Nat.pow_add, show k + (52 - k) = 52 by omega]
      have lower : 4503599627370496 ≤ x.fraction.val * 2 ^ (52 - k) := by
        rw [← shifted]
        exact Nat.mul_le_mul_right _ low
      have upper : x.fraction.val * 2 ^ (52 - k) < 2 * 4503599627370496 := by
        rw [← shifted, ← Nat.mul_assoc, Nat.mul_comm 2, ← Nat.pow_succ]
        exact Nat.mul_lt_mul_of_pos_right high (Nat.two_pow_pos _)
      have field : (k + 874) % 2048 = k + 874 := Nat.mod_eq_of_lt (by omega)
      have rest : x.fraction.val * 2 ^ (52 - k) % 4503599627370496 =
          x.fraction.val * 2 ^ (52 - k) - 4503599627370496 := by omega
      simp only [units, significand, Binary64.units, Binary64.significand, Fin.val_ofNat, field,
        Nat.shiftLeft_eq, rest, subnormal]
      rw [if_neg (by omega), if_pos trivial, Nat.add_sub_cancel' lower, Nat.mul_assoc,
        ← Nat.pow_add, show 52 - k + (k + 874 - 1) = scale by unfold scale; omega]
      simp
  · rename_i normal
    have field : (x.exponent.val + 896) % 2048 = x.exponent.val + 896 :=
      Nat.mod_eq_of_lt (by omega)
    simp only [units, significand, Binary64.units, Binary64.significand, Fin.val_ofNat, field,
      Nat.shiftLeft_eq, if_neg normal]
    rw [if_neg (by omega), show 4503599627370496 + x.fraction.val * 536870912 =
      (8388608 + x.fraction.val) * 2 ^ 29 by omega, Nat.mul_assoc, Nat.mul_assoc, ← Nat.pow_add,
      ← Nat.pow_add, show 29 + (x.exponent.val + 896 - 1) = x.exponent.val - 1 + scale by
        unfold scale; omega]

/-- The sign is kept, also of zero and of NaN. -/
theorem widen_negative (x : Binary32) : x.widen.negative = x.negative := by
  unfold widen
  split
  · rfl
  · split
    · split <;> rfl
    · rfl

end Binary32

end SqlAssembly
