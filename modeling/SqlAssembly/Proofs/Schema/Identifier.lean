import SqlAssembly.Proofs.Text.Quote
import SqlAssembly.Schema.Identifier

/-!
# Which names are read

A name is read without the blanks around it, and it has none inside.

* `isBlank_of_continuesIdentifier`, `isBlank_of_mem_tableName` — no character of an identifier or
  of the name of a table is a blank.
* `readIdentifier_eq_ok_iff`, `readTableName_eq_ok_iff` — the texts that are names, and the names
  that they are.
* `readTableName_self_iff` — a text is the name of a table as it stands exactly when it consists
  of identifiers with points between them.
-/

set_option autoImplicit false

namespace SqlAssembly

/-- The code points that an identifier is made of. -/
theorem toNat_of_continuesIdentifier {c : Char} (h : continuesIdentifier c = true) :
    48 ≤ c.toNat ∧ c.toNat ≤ 57 ∨ 65 ≤ c.toNat ∧ c.toNat ≤ 90 ∨ c.toNat = 95 ∨
      97 ≤ c.toNat ∧ c.toNat ≤ 122 := by
  have upper : c.isUpper = decide (65 ≤ c.val ∧ c.val ≤ 90) := rfl
  have lower : c.isLower = (decide (97 ≤ c.val) && decide (c.val ≤ 122)) := rfl
  have digit : c.isDigit = (decide (48 ≤ c.val) && decide (c.val ≤ 57)) := rfl
  have inner : continuesIdentifier c = ((c.isUpper || c.isLower) || c.isDigit || c == '_') := rfl
  simp only [inner, upper, lower, digit, Bool.or_eq_true, Bool.and_eq_true, decide_eq_true_eq,
    beq_iff_eq, UInt32.le_iff_toNat_le] at h
  rcases h with ((upper | lower) | digit) | rfl
  · exact Or.inr (Or.inl upper)
  · exact Or.inr (Or.inr (Or.inr lower))
  · exact Or.inl digit
  · exact Or.inr (Or.inr (Or.inl rfl))

theorem isBlank_of_continuesIdentifier {c : Char} (h : continuesIdentifier c = true) :
    isBlank c = false := by
  have code := toNat_of_continuesIdentifier h
  simp only [isBlank, Bool.or_eq_false_iff, Bool.and_eq_false_iff, decide_eq_false_iff_not,
    beq_eq_false_iff_ne]
  omega

/-- A text that is an identifier is read as itself. -/
theorem readIdentifier_eq_ok_iff {subject text name : String} :
    readIdentifier subject text = .ok name ↔
      isIdentifier (trim text) = true ∧ name = trim text := by
  unfold readIdentifier
  dsimp only
  split
  · rename_i empty
    simp [empty, isIdentifier, formIdentifier]
  · split
    · rename_i identifier
      simp [identifier, eq_comm]
    · rename_i other
      simp [other]

theorem readTableName_eq_ok_iff {text name : String} :
    readTableName text = .ok name ↔ isTableName (trim text) = true ∧ name = trim text := by
  unfold readTableName
  dsimp only
  split
  · rename_i empty
    simp [empty, isTableName, formIdentifier]
  · split
    · rename_i named
      simp [named, eq_comm]
    · rename_i other
      simp [other]

/-- The characters of a table's name are points and those of identifiers. -/
theorem eq_point_or_continuesIdentifier {text : String} (h : isTableName text = true) {c : Char}
    (hc : c ∈ text.toList) : c = '.' ∨ continuesIdentifier c = true := by
  have point : ∀ d ∈ ['.'], d = '.' ∨ continuesIdentifier d = true :=
    List.forall_mem_singleton.2 (Or.inl rfl)
  have parts : ∀ part ∈ text.toList.splitOn '.', ∀ d ∈ part,
      d = '.' ∨ continuesIdentifier d = true := fun part listed d hd =>
    Or.inr (continuesIdentifier_of_mem (List.all_eq_true.1 h part listed) d hd)
  have all := (forall_mem_intercalate_iff point (text.toList.splitOn '.')).2 parts
  rw [List.intercalate_splitOn] at all
  exact all c hc

/-- There are no blanks in the name of a table. -/
theorem isBlank_of_mem_tableName {text : String} (h : isTableName text = true) :
    ∀ c ∈ text.toList, isBlank c = false := by
  intro c hc
  rcases eq_point_or_continuesIdentifier h hc with rfl | inner
  · rfl
  · exact isBlank_of_continuesIdentifier inner

theorem trim_of_isTableName {text : String} (h : isTableName text = true) : trim text = text := by
  rw [trim, trimChars_of_not_blank (isBlank_of_mem_tableName h), String.ofList_toList]

/-- Where blanks at the ends are excluded, a text meets a condition once they are gone, and is what
is left then, exactly when it meets the condition as it stands. -/
theorem and_eq_trim_iff (p : String → Bool) {text : String}
    (h : p text = true → trim text = text) :
    p (trim text) = true ∧ text = trim text ↔ p text = true := by
  constructor
  · rintro ⟨trimmed, same⟩
    rwa [← same] at trimmed
  · intro whole
    have same := h whole
    rw [same]
    exact ⟨whole, rfl⟩

theorem readTableName_self_iff {text : String} :
    readTableName text = .ok text ↔ isTableName text = true := by
  rw [readTableName_eq_ok_iff]
  exact and_eq_trim_iff isTableName trim_of_isTableName

end SqlAssembly
