import Mathlib.Data.List.Infix

/-!
# Patterns with wildcards

In the pattern of a LIKE test a percent sign stands for any characters, be it none, and an
underscore for a single one.  Every other character stands for itself, and there is no way to escape
a wildcard.

* `StandsFor`, `Fits` — what a character of a pattern stands for, and the texts that fit a pattern.
* `fits`, `fits_iff` — the matcher, which tries every end of the text at a percent sign, finds the
  texts that fit.
* `fits_append` — two patterns in a row are fitted by a text of the one and then a text of the
  other.
* `fits_iff_eq` — a pattern without wildcards is fitted by itself alone.
-/

set_option autoImplicit false

namespace SqlAssembly

/-- What a character of a pattern can stand for. -/
inductive StandsFor : Char → List Char → Prop
  | any (part : List Char) : StandsFor '%' part
  | one (c : Char) : StandsFor '_' [c]
  | itself {c : Char} (percent : c ≠ '%') (underscore : c ≠ '_') : StandsFor c [c]

/-- A text fits a pattern if it falls into parts, one for each character of the pattern. -/
inductive Fits : List Char → List Char → Prop
  | nil : Fits [] []
  | cons {c : Char} {part pattern text : List Char} (first : StandsFor c part)
    (rest : Fits pattern text) : Fits (c :: pattern) (part ++ text)

/-- Whether a text fits a pattern.  Only at a percent sign is there anything to try. -/
def fits : List Char → List Char → Bool
  | [], text => text.isEmpty
  | c :: pattern, text =>
    if c = '%' then text.tails.any fun rest => fits pattern rest
    else
      match text with
      | [] => false
      | d :: rest => (c == '_' || c == d) && fits pattern rest

variable {c : Char} {part pattern text : List Char}

/-! ## Character by character -/

theorem standsFor_of_ne (h : c ≠ '%') :
    StandsFor c part ↔ ∃ d, part = [d] ∧ (c = '_' ∨ c = d) := by
  constructor
  · intro stands
    cases stands with
    | any => exact absurd rfl h
    | one d => exact ⟨d, rfl, Or.inl rfl⟩
    | itself => exact ⟨c, rfl, Or.inr rfl⟩
  · rintro ⟨d, rfl, rfl | rfl⟩
    · exact .one d
    · by_cases underscore : c = '_'
      · exact underscore ▸ .one _
      · exact .itself h underscore

theorem fits_nil_iff : Fits [] text ↔ text = [] := by
  constructor
  · intro fit
    cases fit
    rfl
  · rintro rfl
    exact .nil

theorem fits_cons_iff :
    Fits (c :: pattern) text ↔
      ∃ part rest, text = part ++ rest ∧ StandsFor c part ∧ Fits pattern rest := by
  constructor
  · intro fit
    cases fit with
    | cons first rest => exact ⟨_, _, rfl, first, rest⟩
  · rintro ⟨part, rest, rfl, first, fit⟩
    exact .cons first fit

/-- The matcher finds the texts that fit. -/
theorem fits_iff : fits pattern text = true ↔ Fits pattern text := by
  induction pattern generalizing text with
  | nil => rw [fits, List.isEmpty_iff, fits_nil_iff]
  | cons c pattern ih =>
    rw [fits.eq_def, fits_cons_iff]
    dsimp only
    split
    · rename_i percent
      subst percent
      simp only [List.any_eq_true, List.mem_tails, ih]
      constructor
      · rintro ⟨rest, ⟨part, joined⟩, fit⟩
        exact ⟨part, rest, joined.symm, .any part, fit⟩
      · rintro ⟨part, rest, joined, -, fit⟩
        exact ⟨rest, ⟨part, joined.symm⟩, fit⟩
    · rename_i percent
      simp only [standsFor_of_ne percent]
      cases text with
      | nil => simp
      | cons d text =>
        simp only [Bool.and_eq_true, Bool.or_eq_true, beq_iff_eq, ih]
        constructor
        · rintro ⟨stands, fit⟩
          exact ⟨[d], text, rfl, ⟨d, rfl, stands⟩, fit⟩
        · rintro ⟨part, rest, joined, ⟨e, rfl, stands⟩, fit⟩
          obtain ⟨rfl, rfl⟩ := List.cons.inj joined
          exact ⟨stands, fit⟩

instance : Decidable (Fits pattern text) := decidable_of_iff _ fits_iff

/-- The first place where the end of the pattern is found is not the right one. -/
example : Fits "%a_a".toList "abaaba".toList := by decide

/-! ## Patterns in a row -/

/-- What fits two patterns in a row is a text that fits the first and then one that fits the
second. -/
theorem fits_append {first second : List Char} :
    Fits (first ++ second) text ↔
      ∃ before behind, text = before ++ behind ∧ Fits first before ∧ Fits second behind := by
  induction first generalizing text with
  | nil => simp [fits_nil_iff]
  | cons c first ih =>
    simp only [List.cons_append, fits_cons_iff, ih]
    constructor
    · rintro ⟨part, -, rfl, stands, before, behind, rfl, fit, fit'⟩
      exact ⟨part ++ before, behind, (List.append_assoc ..).symm, ⟨part, before, rfl, stands, fit⟩,
        fit'⟩
    · rintro ⟨-, behind, rfl, ⟨part, before, rfl, stands, fit⟩, fit'⟩
      exact ⟨part, before ++ behind, List.append_assoc .., stands, before, behind, rfl, fit, fit'⟩

/-- Any text fits a percent sign. -/
theorem fits_percent (text : List Char) : Fits ['%'] text :=
  fits_cons_iff.2 ⟨text, [], (List.append_nil text).symm, .any text, .nil⟩

/-- A pattern without wildcards is a text that is looked for as it is. -/
theorem fits_iff_eq (percent : '%' ∉ pattern) (underscore : '_' ∉ pattern) :
    Fits pattern text ↔ text = pattern := by
  induction pattern generalizing text with
  | nil => exact fits_nil_iff
  | cons c pattern ih =>
    rw [List.mem_cons, not_or] at percent underscore
    simp only [fits_cons_iff, standsFor_of_ne (Ne.symm percent.1), ih percent.2 underscore.2]
    constructor
    · rintro ⟨part, rest, rfl, ⟨d, rfl, wildcard | rfl⟩, rfl⟩
      · exact absurd wildcard.symm underscore.1
      · rfl
    · rintro rfl
      exact ⟨[c], pattern, rfl, ⟨c, rfl, Or.inr rfl⟩, rfl⟩

end SqlAssembly
