import SqlAssembly.Proofs.Number.Exact
import SqlAssembly.Value

/-!
# Floating point numbers in fixed point

A finite number is written with six decimals, and what is written is as near to it as six decimals
can be.

* `IsNumeral` — a sign, digits, a point and six digits.
* `wholeNumber`, `readDecimal` — the number that digits make, and the number that a text stands for.
* `isNumeral_fixedPoint` — a count of millionths is written as such a numeral.
* `Binary64.isNearest_millionths` — a number is counted in millionths to the nearest one.
* `Value.float_literal_nearest` — a floating point number as a literal.
-/

set_option autoImplicit false

namespace SqlAssembly

/-! ## Numerals -/

/-- A numeral in fixed point: a sign where `negative`, digits without a zero in front of others, a
point and six digits. -/
structure IsNumeral (negative : Bool) (whole decimals : List Char) (text : String) : Prop where
  written : text.toList = (if negative then ['-'] else []) ++ whole ++ '.' :: decimals
  digits : ∀ c ∈ whole ++ decimals, c.isDigit = true
  canonical : whole.head? = some '0' → whole = ['0']
  whole_ne_nil : whole ≠ []
  six : decimals.length = 6

/-- The whole number that digits make. -/
def wholeNumber (digits : List Char) : ℕ := Nat.ofDigitChars 10 digits 0

/-- The number that a numeral with six decimals stands for: what its digits make, in millionths, and
below zero if it has a sign. -/
def readDecimal (text : String) : ℚ :=
  (if '-' ∈ text.toList then -1 else 1) * wholeNumber (text.toList.filter Char.isDigit) / 10 ^ 6

theorem IsNumeral.readDecimal_eq {negative : Bool} {whole decimals : List Char} {text : String}
    (h : IsNumeral negative whole decimals text) :
    readDecimal text =
      (if negative then -1 else 1) * wholeNumber (whole ++ decimals) / 10 ^ 6 := by
  have front := fun c listed => h.digits c (List.mem_append_left decimals listed)
  have back := fun c listed => h.digits c (List.mem_append_right whole listed)
  have digits : text.toList.filter Char.isDigit = whole ++ decimals := by
    have sign : (if negative then ['-'] else []).filter Char.isDigit = [] := by
      cases negative <;> rfl
    rw [h.written, List.filter_append, List.filter_append, sign, List.nil_append,
      List.filter_eq_self.2 front, List.filter_cons_of_neg (by decide),
      List.filter_eq_self.2 back]
  have sign : '-' ∈ text.toList ↔ negative = true := by
    have noDigit : Char.isDigit '-' = false := rfl
    have whole' : '-' ∉ whole := fun found => by simpa [noDigit] using front _ found
    have decimals' : '-' ∉ decimals := fun found => by simpa [noDigit] using back _ found
    rw [h.written]
    cases negative <;> simp [whole', decimals']
  rw [readDecimal, digits]
  simp only [sign]

/-! ## Digits -/

/-- Only zero has a zero in front. -/
theorem head?_toDigits {n : ℕ} (h : 0 < n) : (Nat.toDigits 10 n).head? ≠ some '0' := by
  have digit : ∀ n < 10, 0 < n → [Nat.digitChar n].head? ≠ some '0' := by decide
  induction n using Nat.strongRecOn with
  | ind n ih =>
    rw [Nat.toDigits_eq_if (by decide)]
    split
    · rename_i small
      exact digit n small h
    · have front := ih (n / 10) (by omega) (by omega)
      rwa [List.head?_append_of_ne_nil _ Nat.toDigits_ne_nil]

/-- A number that is small enough is filled up to the width. -/
theorem length_paddedDigits {width n : ℕ} (positive : 0 < width) (h : n < 10 ^ width) :
    (paddedDigits width n).length = width := by
  have short := (Nat.length_toDigits_le_iff (by decide) positive).2 h
  rw [paddedDigits, List.leftpad, List.length_append, List.length_replicate]
  exact Nat.sub_add_cancel short

theorem wholeNumber_append (first second : List Char) :
    wholeNumber (first ++ second) =
      10 ^ second.length * wholeNumber first + wholeNumber second := by
  rw [wholeNumber, Nat.ofDigitChars_append, Nat.ofDigitChars_eq_ofDigitChars_zero]
  rfl

theorem wholeNumber_paddedDigits (width n : ℕ) : wholeNumber (paddedDigits width n) = n := by
  rw [wholeNumber, paddedDigits, List.leftpad, Nat.ofDigitChars_append,
    Nat.ofDigitChars_replicate_zero, Nat.mul_zero, Nat.ofDigitChars_ten_toDigits]

theorem isNumeral_fixedPoint (negative : Bool) (n : ℕ) :
    IsNumeral negative (Nat.toDigits 10 (n / 1000000)) (paddedDigits 6 (n % 1000000))
      ((if negative then "-" else "") ++ fixedPoint n) where
  written := by
    have point : ".".toList = ['.'] := by decide
    have sign : (if negative then "-" else "").toList = if negative then ['-'] else [] := by
      cases negative <;> decide
    rw [fixedPoint, String.toList_append, String.toList_append, String.toList_append, point, sign,
      String.toList_ofList, Nat.toString_eq_repr, Nat.toList_repr]
    simp
  digits := List.forall_mem_append.2
    ⟨fun _ => Nat.isDigit_of_mem_toDigits (by decide) (by decide),
      fun _ => isDigit_of_mem_paddedDigits⟩
  canonical := by
    intro zero
    rcases Nat.eq_zero_or_pos (n / 1000000) with noWhole | positive
    · rw [noWhole]
      rfl
    · exact absurd zero (head?_toDigits positive)
  whole_ne_nil := Nat.toDigits_ne_nil
  six := length_paddedDigits (by decide) (Nat.mod_lt n (by decide))

/-- The digits of a count of millionths make this count. -/
theorem wholeNumber_fixedPoint (n : ℕ) :
    wholeNumber (Nat.toDigits 10 (n / 1000000) ++ paddedDigits 6 (n % 1000000)) = n := by
  have six : (paddedDigits 6 (n % 1000000)).length = 6 :=
    length_paddedDigits (by decide) (Nat.mod_lt n (by decide))
  have front : wholeNumber (Nat.toDigits 10 (n / 1000000)) = n / 1000000 :=
    Nat.ofDigitChars_ten_toDigits
  rw [wholeNumber_append, front, wholeNumber_paddedDigits, six]
  exact Nat.div_add_mod n 1000000

/-! ## Numbers as numerals -/

namespace Binary64

variable {x y : Binary64}

theorem decimal_of_isFinite (finite : x.isFinite = true) :
    x.decimal = (if x.negative then "-" else "") ++ fixedPoint x.millionths := by
  have normal : x.exponent.val ≠ 2047 := by simpa [isFinite] using finite
  have number : x.isNaN = false := by simp [isNaN, normal]
  simp [decimal, number, finite]

theorem isNearest_millionths (x : Binary64) : IsNearest (|x.value| * 10 ^ 6) x.millionths := by
  have units : |x.value| * 10 ^ 6 = (x.units * 1000000 : ℕ) / (unitsPerOne : ℕ) := by
    rw [abs_value, magnitude_eq]
    push_cast
    ring
  rw [units, millionths]
  exact isNearest_roundHalfEven _ unitsPerOne_pos

/-- The digits of a finite number are those of the nearest count of millionths. -/
theorem isNumeral_literal (finite : x.isFinite = true) :
    IsNumeral x.negative (Nat.toDigits 10 (x.millionths / 1000000))
      (paddedDigits 6 (x.millionths % 1000000)) (Value.float x).literal := by
  rw [Value.literal_of_not_isText rfl, Value.plain, decimal_of_isFinite finite]
  exact isNumeral_fixedPoint _ _

theorem readDecimal_literal (finite : x.isFinite = true) :
    readDecimal (Value.float x).literal =
      (if x.negative then -1 else 1) * x.millionths / 10 ^ 6 := by
  rw [(isNumeral_literal finite).readDecimal_eq, wholeNumber_fixedPoint]

/-- With its sign, the count of millionths is the one nearest to the number. -/
theorem isNearest_value (x : Binary64) :
    IsNearest (x.value * 10 ^ 6) ((if x.negative then -1 else 1) * x.millionths) := by
  have nearest := isNearest_millionths x
  rw [abs_value] at nearest
  rw [value]
  cases x.negative with
  | false => simpa using nearest
  | true => simpa using nearest.neg

theorem readDecimal_mono (hx : x.isFinite = true) (hy : y.isFinite = true)
    (le : x.value ≤ y.value) :
    readDecimal (Value.float x).literal ≤ readDecimal (Value.float y).literal := by
  have counts := (isNearest_value x).mono (isNearest_value y) (by linarith)
  have counts' : ((if x.negative then -1 else 1) * x.millionths : ℚ) ≤
      (if y.negative then -1 else 1) * y.millionths := by exact_mod_cast counts
  rw [readDecimal_literal hx, readDecimal_literal hy]
  exact div_le_div_of_nonneg_right counts' (by positivity)

end Binary64

/-- **Floating point literals are rounded to the nearest six decimals.**  A finite number of double
precision, and one of single precision as well, is written as a numeral in fixed point that has a
sign exactly when the number has one.  Its digits make the whole number nearest to the size of the
number in millionths, and the even one when two are as near.  So a greater number is never written
as a smaller one. -/
theorem Value.float_literal_nearest :
    (∀ x : Binary64, x.isFinite = true → ∃ whole decimals,
      IsNumeral x.negative whole decimals (Value.float x).literal ∧
        IsNearest (|x.value| * 10 ^ 6) (wholeNumber (whole ++ decimals))) ∧
      (∀ x : Binary32, x.isFinite = true → ∃ whole decimals,
        IsNumeral x.negative whole decimals (Value.float x.widen).literal ∧
          IsNearest (|x.value| * 10 ^ 6) (wholeNumber (whole ++ decimals))) ∧
      ∀ x y : Binary64, x.isFinite = true → y.isFinite = true → x.value ≤ y.value →
        readDecimal (Value.float x).literal ≤ readDecimal (Value.float y).literal := by
  have double : ∀ x : Binary64, x.isFinite = true → ∃ whole decimals,
      IsNumeral x.negative whole decimals (Value.float x).literal ∧
        IsNearest (|x.value| * 10 ^ 6) (wholeNumber (whole ++ decimals)) := by
    intro x finite
    refine ⟨_, _, x.isNumeral_literal finite, ?_⟩
    rw [wholeNumber_fixedPoint]
    exact x.isNearest_millionths
  refine ⟨double, fun x finite => ?_, fun x y => Binary64.readDecimal_mono⟩
  have widened := double x.widen (Binary32.isFinite_widen finite)
  rwa [Binary32.value_widen finite, Binary32.widen_negative] at widened

/-- One part in 128 lies half-way between two counts of millionths, of which the lower is even. -/
theorem Value.float_literal_nearest_halfway :
    ∃ whole decimals, IsNumeral false whole decimals "0.007812" ∧
      IsNearest (|1 / 128| * 10 ^ 6) (wholeNumber (whole ++ decimals)) := by
  have literal : (Value.float (.ofWord 0x3F80000000000000)).literal = "0.007812" := by decide
  have value : (Binary64.ofWord 0x3F80000000000000).value = 1 / 128 := by
    have fields : Binary64.ofWord 0x3F80000000000000 = ⟨false, 1016, 0⟩ := by decide
    rw [fields]
    norm_num [Binary64.value, Binary64.magnitude, fieldValue]
  obtain ⟨double, -, -⟩ := float_literal_nearest
  have written := double (.ofWord 0x3F80000000000000) (by decide)
  rwa [literal, value] at written

end SqlAssembly
