import Mathlib.Data.List.Basic
import SqlAssembly.Schema.Identifier
import SqlAssembly.Value

/-!
# The characters of values

Besides a text, a value is written with the characters of words only: no space, no comma, no
bracket and no quote is among them.  A text is written between quotes.

* `isWordChar` — the characters of names and numbers.
* `Binary64.isWordChar_of_mem_decimal` — a floating point number is written with them.
* `Value.isWordChar_of_mem_plain` — so is every value that is neither a text nor a column.
* `quoted_intercalate`, `quoted_inj` — texts that are quoted together, and that a quoted text can be
  told from any other.
* `Value.mem_plain_column` — a column adds the characters of its two names.
-/

set_option autoImplicit false

namespace SqlAssembly

/-- The characters of names and numbers. -/
def isWordChar (c : Char) : Bool := continuesIdentifier c || c == '.' || c == '-'

theorem isWordChar_of_isDigit {c : Char} (h : c.isDigit = true) : isWordChar c = true := by
  simp [isWordChar, continuesIdentifier, Char.isAlphanum, h]

theorem isWordChar_of_mem_digits {c : Char} {n : Nat} (h : c ∈ (toString n).toList) :
    isWordChar c = true := by
  rw [Nat.toString_eq_repr, Nat.toList_repr] at h
  exact isWordChar_of_isDigit (Nat.isDigit_of_mem_toDigits (by decide) (by decide) h)

theorem isWordChar_of_mem_int {c : Char} {n : Int} (h : c ∈ (toString n).toList) :
    isWordChar c = true := by
  rw [Int.toString_eq_repr] at h
  cases n with
  | ofNat n => exact isWordChar_of_mem_digits (n := n) h
  | negSucc n =>
    have sign : "-".toList = ['-'] := by decide
    simp only [Int.repr, String.toList_append, sign, List.mem_append, List.mem_singleton] at h
    rcases h with rfl | h
    · rfl
    · exact isWordChar_of_mem_digits (n := n.succ) h

theorem isWordChar_of_mem_fixedPoint {c : Char} {n : Nat} (h : c ∈ (fixedPoint n).toList) :
    isWordChar c = true := by
  have point : ".".toList = ['.'] := by decide
  simp only [fixedPoint, String.toList_append, point, String.toList_ofList, List.mem_append,
    List.mem_singleton] at h
  rcases h with (whole | rfl) | decimal
  · exact isWordChar_of_mem_digits whole
  · rfl
  · exact isWordChar_of_isDigit (isDigit_of_mem_paddedDigits decimal)

/-- A floating point number is written with digits, a point and a sign, or as one of three
words. -/
theorem Binary64.isWordChar_of_mem_decimal {c : Char} {x : Binary64}
    (h : c ∈ x.decimal.toList) : isWordChar c = true := by
  have words : ∀ word ∈ ["NaN", "-", "", "inf"], word.toList.all isWordChar = true := by decide
  unfold decimal at h
  split at h
  · exact List.all_eq_true.1 (words "NaN" (by decide)) c h
  · have signed : ∀ c ∈ (if x.negative then "-" else "").toList, isWordChar c = true := by
      cases x.negative
      · exact List.all_eq_true.1 (words "" (by decide))
      · exact List.all_eq_true.1 (words "-" (by decide))
    dsimp only at h
    generalize (if x.negative then "-" else "") = sign at h signed
    split at h <;> rw [String.toList_append, List.mem_append] at h <;> rcases h with h | h
    · exact signed c h
    · exact isWordChar_of_mem_fixedPoint h
    · exact signed c h
    · exact List.all_eq_true.1 (words "inf" (by decide)) c h

theorem toList_quoted (text : String) :
    (quoted text).toList = '\'' :: text.toList ++ '\'' :: [] := by
  have quote : "'".toList = ['\''] := by decide
  simp only [quoted, String.toList_append, quote, List.singleton_append]

/-- Texts quoted together are texts quoted one by one. -/
theorem quoted_intercalate {texts : List String} (h : texts ≠ []) :
    quoted ("', '".intercalate texts) = ", ".intercalate (texts.map quoted) := by
  induction texts with
  | nil => exact absurd rfl h
  | cons first rest ih =>
    cases rest with
    | nil => simp [quoted]
    | cons second rest =>
      have := ih (List.cons_ne_nil _ _)
      rw [String.intercalate_cons_cons, List.map_cons, List.map_cons, String.intercalate_cons_cons,
        ← List.map_cons, ← this]
      have sep : "', '" = "'" ++ ", " ++ "'" := by decide
      simp only [quoted, sep, String.append_assoc]

theorem quoted_inj {first second : String} : quoted first = quoted second ↔ first = second := by
  rw [← String.toList_inj, toList_quoted, toList_quoted, List.append_left_inj, List.cons_inj_right,
    String.toList_inj]

namespace Value

/-- A value that is neither a text nor a column is a single word. -/
theorem isWordChar_of_mem_plain {v : Value} (text : v.isText = false)
    (column : ∀ c, v ≠ .column c) {c : Char} (h : c ∈ v.plain.toList) : isWordChar c = true := by
  have words : ∀ word ∈ ["true", "false", "NULL"], word.toList.all isWordChar = true := by decide
  cases v with
  | text content => cases text
  | int number => exact isWordChar_of_mem_int h
  | float number => exact Binary64.isWordChar_of_mem_decimal h
  | bool flag =>
    cases flag
    · exact List.all_eq_true.1 (words "false" (by decide)) c h
    · exact List.all_eq_true.1 (words "true" (by decide)) c h
  | column found => exact absurd rfl (column found)
  | null => exact List.all_eq_true.1 (words "NULL" (by decide)) c h

theorem mem_plain_column {column : Column} {c : Char} (h : c ∈ (Value.column column).plain.toList) :
    c = '.' ∨ c ∈ column.table.toList ∨ c ∈ column.name.toList := by
  have point : ".".toList = ['.'] := by decide
  simp only [plain, Column.text, String.toList_append, point, List.mem_append,
    List.mem_singleton] at h
  tauto

end Value

end SqlAssembly
