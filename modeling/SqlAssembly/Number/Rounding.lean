/-!
# Rounding a quotient to the nearest whole number

* `roundHalfEven num den` — the whole number nearest to `num / den`; of two equally near ones,
  the even one.
* `roundHalfEven_le`, `le_roundHalfEven` — the result is within half a unit of the quotient.
* `tie_of_halfway`, `even_of_tie` — exactly half a unit away, there was a choice, and the result is
  even.
-/

set_option autoImplicit false

namespace SqlAssembly

/-- The whole number nearest to `num / den`; a quotient half-way between two goes to the even
one. -/
def roundHalfEven (num den : Nat) : Nat :=
  let below := num / den
  let rest := num % den
  if 2 * rest < den then below
  else if den < 2 * rest then below + 1
  else below + below % 2

/-- The result exceeds the quotient by at most one half. -/
theorem roundHalfEven_le (num den : Nat) : 2 * (den * roundHalfEven num den) ≤ 2 * num + den := by
  have parts := Nat.div_add_mod num den
  simp only [roundHalfEven]
  split
  · omega
  · split
    · rw [Nat.mul_add]; omega
    · rcases Nat.mod_two_eq_zero_or_one (num / den) with h | h <;> rw [h] <;>
        simp only [Nat.mul_add, Nat.mul_zero, Nat.mul_one] <;> omega

/-- The quotient exceeds the result by at most one half. -/
theorem le_roundHalfEven (num den : Nat) (h : 0 < den) :
    2 * num ≤ 2 * (den * roundHalfEven num den) + den := by
  have parts := Nat.div_add_mod num den
  have rest := Nat.mod_lt num h
  simp only [roundHalfEven]
  split
  · omega
  · split
    · rw [Nat.mul_add]; omega
    · rcases Nat.mod_two_eq_zero_or_one (num / den) with h | h <;> rw [h] <;>
        simp only [Nat.mul_add, Nat.mul_zero, Nat.mul_one] <;> omega

/-- The result is half a unit away only from a quotient half-way between two whole numbers. -/
theorem tie_of_halfway (num den : Nat) (h : 0 < den)
    (half : 2 * num = 2 * (den * roundHalfEven num den) + den ∨
      2 * num + den = 2 * (den * roundHalfEven num den)) : 2 * (num % den) = den := by
  have parts := Nat.div_add_mod num den
  have rest := Nat.mod_lt num h
  simp only [roundHalfEven] at half
  split at half
  · omega
  · split at half
    · rw [Nat.mul_add] at half; omega
    · omega

/-- A quotient half-way between two whole numbers goes to the even one. -/
theorem even_of_tie (num den : Nat) (tie : 2 * (num % den) = den) :
    roundHalfEven num den % 2 = 0 := by
  simp only [roundHalfEven, tie, Nat.lt_irrefl, if_false]
  omega

end SqlAssembly
