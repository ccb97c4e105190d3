import SqlAssembly.Proofs.Schema.QualifiedName
import SqlAssembly.Proofs.Statement.Part
import SqlAssembly.Proofs.Statement.Words
import SqlAssembly.Proofs.Value.Characters

/-!
# Reading names, values and tables

What can be told apart again when a statement is read as words.

* `IsName`, `IsAtom` — the names of tables and columns, and the words that a name or a value is
  written as.
* `Part.IsPlain` — what may be given to a statement so that it can be read again.
* `Table.words`, `readTable` — a table as words, and the table in front of some words.
* `restrictionRows`, `readRestriction` — the WHERE part as words, and the condition in it.
-/

set_option autoImplicit false

namespace SqlAssembly

/-! ## Names -/

/-- An identifier, or two of them with a point between them. -/
def IsName (text : String) : Prop :=
  isTableName text = true ∧ (text.toList.splitOn '.').length ≤ 2

instance (text : String) : Decidable (IsName text) := inferInstanceAs (Decidable (_ ∧ _))

theorem IsName.isWordChar_of_mem {text : String} (h : IsName text) {c : Char}
    (hc : c ∈ text.toList) : isWordChar c = true := by
  rcases eq_point_or_continuesIdentifier h.1 hc with rfl | inner
  · rfl
  · simp [isWordChar, inner]

/-! ## The words of names and values -/

/-- The words that names and values are written as. -/
inductive IsAtom : String → Prop
  | plain {word : String} (h : ∀ c ∈ word.toList, isWordChar c = true) : IsAtom word
  | quoted {text : String} (h : '\'' ∉ text.toList) : IsAtom (quoted text)

theorem IsName.isAtom {text : String} (h : IsName text) : IsAtom text :=
  .plain fun _ => h.isWordChar_of_mem

theorem IsName.space_not_mem {text : String} (h : IsName text) : ' ' ∉ text.toList := fun found =>
  absurd (h.isWordChar_of_mem found) (by decide)

namespace IsAtom

variable {word : String}

theorem isLexeme (h : IsAtom word) : IsLexeme word := by
  cases h with
  | plain h =>
    exact IsLexeme.of_not_mem (fun found => absurd (h _ found) (by decide))
      fun found => absurd (h _ found) (by decide)
  | @quoted text h =>
    constructor
    · rw [toList_quoted, leavesOpen_append, leavesOpen, leavesOpen_of_not_mem h]
      rfl
    · rw [toList_quoted, marked_segment h, marked]
      simp

theorem not_endsInComma (h : IsAtom word) : endsInComma word = false := by
  unfold endsInComma
  cases h with
  | plain h =>
    cases last : word.toList.getLast? with
    | none => rfl
    | some c =>
      have hc := h c (List.mem_of_getLast? last)
      have : c ≠ ',' := by
        rintro rfl
        cases hc
      simpa using this
  | quoted h =>
    rw [toList_quoted, List.getLast?_append]
    rfl

/-- A word that starts otherwise than an atom does is none. -/
theorem ne_of_head (h : IsAtom word) {c : Char} {rest : List Char} (hc : isWordChar c = false)
    (hq : c ≠ '\'') : word ≠ String.ofList (c :: rest) := by
  rintro rfl
  have head : (String.ofList (c :: rest)).toList.head? = some c := by rw [String.toList_ofList]; rfl
  -- the case split needs a variable in place of the text
  generalize String.ofList (c :: rest) = other at h head
  cases h with
  | plain h => exact absurd (h c (List.mem_of_head? head)) (by simp [hc])
  | quoted h =>
    rw [toList_quoted] at head
    exact hq (Option.some.inj head).symm

end IsAtom

/-- What can be read off a statement again: names other than the `reserved` words, conditions
without one of the `openings` among their words, and text values without a quote. -/
def Part.IsPlain (reserved openings : List String) : Part → Prop
  | name text => IsName text ∧ text ∉ reserved
  | condition c => ∀ w ∈ wordsOf c.text, w ∉ openings
  | value (.text content) => '\'' ∉ content.toList
  | value (.column c) => IsName c.table ∧ IsName c.name
  | value _ => True

instance (reserved openings : List String) : DecidablePred (Part.IsPlain reserved openings)
  | .name _ => inferInstanceAs (Decidable (_ ∧ _))
  | .condition c => inferInstanceAs (Decidable (∀ w ∈ wordsOf c.text, w ∉ openings))
  | .value (.text content) => inferInstanceAs (Decidable ('\'' ∉ content.toList))
  | .value (.column _) => inferInstanceAs (Decidable (_ ∧ _))
  | .value (.int _) | .value (.float _) | .value (.bool _) | .value .null =>
    inferInstanceAs (Decidable True)

theorem Value.isAtom_literal {reserved openings : List String} {v : Value}
    (h : (Part.value v).IsPlain reserved openings) : IsAtom v.literal := by
  cases v with
  | text content => exact .quoted h
  | column c =>
    refine .plain fun d hd => ?_
    rcases mem_plain_column hd with rfl | table | name
    · rfl
    · exact h.1.isWordChar_of_mem table
    · exact h.2.isWordChar_of_mem name
  | int | float | bool | null =>
    rw [literal_of_not_isText rfl]
    exact .plain fun d hd => isWordChar_of_mem_plain rfl (by simp) hd

/-! ## Tables -/

/-- A table as the words that introduce it. -/
def Table.words (t : Table) : List String :=
  if t.isRenamed then [t.base, "AS", t.display] else [t.base]

/-- The table that some words start with, and the words behind it. -/
def readTable : List String → Option Table × List String
  | base :: "AS" :: display :: rest => (some ⟨base, display⟩, rest)
  | base :: rest => (some (Table.named base), rest)
  | [] => (none, [])

namespace Table

variable {t : Table}

theorem sql_eq_sentence : t.sql = sentence t.words := by
  have space : " AS " = " " ++ "AS" ++ " " := by decide
  unfold sql words
  split
  · simp only [sentence, String.intercalate_cons_cons, String.intercalate_singleton, space,
      String.append_assoc]
  · exact (sentence_singleton t.base).symm

theorem words_ne_nil : t.words ≠ [] := by
  unfold words
  split <;> exact List.cons_ne_nil _ _

theorem mem_words {w : String} (h : w ∈ t.words) : w = t.base ∨ w = "AS" ∨ w = t.display := by
  unfold words at h
  split at h <;> simp only [List.mem_cons, List.not_mem_nil, or_false] at h
  · exact h
  · exact Or.inl h

/-- The words of a table with plain names are plain. -/
theorem isAtom_of_mem_words {reserved openings : List String}
    (h : ∀ p ∈ t.parts, p.IsPlain reserved openings) {w : String} (hw : w ∈ t.words) :
    IsAtom w := by
  rcases mem_words hw with rfl | rfl | rfl
  · exact (h (.name t.base) (by simp [parts])).1.isAtom
  · exact .plain (List.all_eq_true.1 (by decide))
  · exact (h (.name t.display) (by simp [parts])).1.isAtom

end Table

theorem Table.isLexeme_of_mem_words {reserved openings : List String} {t : Table}
    (h : ∀ p ∈ t.parts, p.IsPlain reserved openings) : ∀ w ∈ t.words, IsLexeme w :=
  fun _ hw => (isAtom_of_mem_words h hw).isLexeme

theorem readTable_words (t : Table) {rest : List String} (h : rest.head? ≠ some "AS") :
    readTable (t.words ++ rest) = (some t, rest) := by
  obtain ⟨base, display⟩ := t
  by_cases renamed : display = base
  · have words : Table.words ⟨base, display⟩ = [base] := by
      simp [Table.words, Table.isRenamed, renamed]
    rw [words, List.singleton_append, renamed]
    unfold readTable
    split
    · rename_i same
      cases same
      exact absurd rfl h
    · rename_i same
      cases same
      rfl
    · rename_i same
      cases same
  · have words : Table.words ⟨base, display⟩ = [base, "AS", display] := by
      simp [Table.words, Table.isRenamed, renamed]
    rw [words]
    rfl

/-- A target that nothing is missing from has its table. -/
theorem Target.exists_table {t : Target} (h : t.missing = []) : ∃ table, t.table = some table := by
  unfold missing at h
  cases found : t.table with
  | none =>
    rw [found] at h
    cases h
  | some table => exact ⟨table, rfl⟩

/-! ## Conditions on the rows -/

/-- The two parts of the WHERE part as rows of words. -/
def restrictionRows (split : String → List String) : Option Condition → List (List String)
  | none => []
  | some c => [["WHERE"], split c.text]

/-- The condition behind the word WHERE. -/
def readRestriction : List String → Option String
  | "WHERE" :: ws => some (sentence ws)
  | _ => none

section

variable {split : String → List String} {condition : Option Condition}

theorem ne_nil_of_mem_restrictionRows (nonempty : ∀ text, split text ≠ []) :
    ∀ ws ∈ restrictionRows split condition, ws ≠ [] := by
  cases condition <;> simp [restrictionRows, nonempty]

variable (condition)

theorem restriction_eq (whole : ∀ text, sentence (split text) = text) :
    restriction condition = (restrictionRows split condition).map sentence := by
  cases condition with
  | none => rfl
  | some c =>
    rw [restriction, restrictionRows, List.map_cons, List.map_singleton, whole, sentence_singleton]

theorem readRestriction_flatten (whole : ∀ text, sentence (split text) = text) :
    readRestriction (restrictionRows split condition).flatten = condition.map Condition.text := by
  cases condition with
  | none => rfl
  | some c =>
    simp [restrictionRows, readRestriction, whole]

end

end SqlAssembly
