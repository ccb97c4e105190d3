import SqlAssembly.Proofs.Condition.Erasure
import SqlAssembly.Proofs.Text.Wildcard

/-!
# Looking for a text in a column

A test that looks for a text at a place is written as a LIKE test, and the rows that fit its pattern
are those that hold the text at that place.

* `Place.Has` — where a part lies in a text.
* `Place.fits_pattern` — a text fits the pattern for a place when a part of it, at that place, fits
  what is looked for.
* `Place.fits_pattern_iff` — without wildcards in it, what is looked for has to be that part.
* `Predicate.like_finds_text` — what the tests are written as and what they find.
-/

set_option autoImplicit false

namespace SqlAssembly

namespace Place

/-- A part lies at a place of a text: at its start, at its end or somewhere in it. -/
def Has : Place → List Char → List Char → Prop
  | start, part, whole => part <+: whole
  | finish, part, whole => part <:+ whole
  | anywhere, part, whole => part <:+: whole

instance : (place : Place) → (part whole : List Char) → Decidable (place.Has part whole)
  | start, part, whole => inferInstanceAs (Decidable (part <+: whole))
  | finish, part, whole => inferInstanceAs (Decidable (part <:+ whole))
  | anywhere, part, whole => inferInstanceAs (Decidable (part <:+: whole))

/-- The wildcards around what is looked for stand for all that lies around the part. -/
theorem fits_pattern (place : Place) (sought : String) (whole : List Char) :
    Fits (place.pattern sought).toList whole ↔
      ∃ part, place.Has part whole ∧ Fits sought.toList part := by
  have percent : "%".toList = ['%'] := by decide
  cases place with
  | start =>
    simp only [pattern, String.toList_append, percent, fits_append]
    constructor
    · rintro ⟨part, behind, rfl, fit, -⟩
      exact ⟨part, List.prefix_append part behind, fit⟩
    · rintro ⟨part, ⟨behind, rfl⟩, fit⟩
      exact ⟨part, behind, rfl, fit, fits_percent behind⟩
  | finish =>
    simp only [pattern, String.toList_append, percent, fits_append]
    constructor
    · rintro ⟨before, part, rfl, -, fit⟩
      exact ⟨part, List.suffix_append before part, fit⟩
    · rintro ⟨part, ⟨before, rfl⟩, fit⟩
      exact ⟨before, part, rfl, fits_percent before, fit⟩
  | anywhere =>
    simp only [pattern, String.toList_append, percent, fits_append]
    constructor
    · rintro ⟨-, behind, rfl, ⟨before, part, rfl, -, fit⟩, -⟩
      exact ⟨part, List.infix_append before part behind, fit⟩
    · rintro ⟨part, ⟨before, behind, rfl⟩, fit⟩
      exact ⟨before ++ part, behind, rfl, ⟨before, part, rfl, fits_percent before, fit⟩,
        fits_percent behind⟩

theorem fits_pattern_iff (place : Place) {sought : String} (percent : '%' ∉ sought.toList)
    (underscore : '_' ∉ sought.toList) (whole : List Char) :
    Fits (place.pattern sought).toList whole ↔ place.Has sought.toList whole := by
  simp only [fits_pattern, fits_iff_eq percent underscore, exists_eq_right]

end Place

/-- **What LIKE tests find.**  A test for a value at a place is written as LIKE or NOT LIKE with the
same pattern between quotes.  The texts that fit this pattern, and that the matcher finds, are those
that have the text of the value at their start, at their end or somewhere in them, as the place
says.  For this the text of the value must have no wildcard in it, and no quote, which would end the
pattern too early.  A pattern that is given as a text is written as it is. -/
theorem Predicate.like_finds_text (target : String) :
    (∀ (place : Place) (v : Value), '%' ∉ v.plain.toList → '_' ∉ v.plain.toList →
      '\'' ∉ v.plain.toList →
        ∃ pattern : String, '\'' ∉ pattern.toList ∧
          (holds target false place v).text = target ++ " LIKE " ++ quoted pattern ∧
          (holds target true place v).text = target ++ " NOT LIKE " ++ quoted pattern ∧
          ∀ text : String,
            (Fits pattern.toList text.toList ↔ place.Has v.plain.toList text.toList) ∧
              (fits pattern.toList text.toList = true ↔
                place.Has v.plain.toList text.toList)) ∧
      ∀ pattern : String,
        (compare target .like (.text pattern)).text = target ++ " LIKE " ++ quoted pattern ∧
          (compare target .notLike (.text pattern)).text =
            target ++ " NOT LIKE " ++ quoted pattern := by
  have words : " LIKE " = " " ++ "LIKE" ++ " " ∧ " NOT LIKE " = " " ++ "NOT LIKE" ++ " " := by
    decide
  have written : ∀ pattern : String,
      (compare target .like (.text pattern)).text = target ++ " LIKE " ++ quoted pattern ∧
        (compare target .notLike (.text pattern)).text =
          target ++ " NOT LIKE " ++ quoted pattern := by
    intro pattern
    rw [words.1, words.2]
    simp only [← String.append_assoc]
    exact ⟨rfl, rfl⟩
  refine ⟨fun place v percent underscore noQuote => ?_, written⟩
  refine ⟨place.pattern v.plain, quote_not_mem_pattern noQuote place, ?_, ?_, fun text => ?_⟩
  · rw [text_holds]
    exact (written _).1
  · rw [text_holds]
    exact (written _).2
  · have found := place.fits_pattern_iff percent underscore text.toList
    exact ⟨found, fits_iff.trans found⟩

/-- What is looked for at the end lies twice in the text, and the two overlap. -/
theorem Predicate.like_finds_text_overlapping :
    ('%' ∉ (Value.text "aba").plain.toList ∧ '_' ∉ (Value.text "aba").plain.toList ∧
      '\'' ∉ (Value.text "aba").plain.toList) ∧
    ∃ pattern : String,
      (holds "code" true .finish (.text "aba")).text = "code" ++ " NOT LIKE " ++ quoted pattern ∧
        Fits pattern.toList "ababa".toList ∧ ¬ Fits pattern.toList "abaab".toList := by
  refine ⟨by decide, ?_⟩
  obtain ⟨pattern, -, -, written, finds⟩ :=
    (like_finds_text "code").1 .finish (.text "aba") (by decide) (by decide) (by decide)
  refine ⟨pattern, written, ?_, ?_⟩
  · rw [(finds _).1]
    decide
  · rw [(finds _).1]
    decide

end SqlAssembly
