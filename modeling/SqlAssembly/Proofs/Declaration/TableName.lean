import SqlAssembly.Proofs.Declaration.Acceptance
import SqlAssembly.Proofs.Statement.SelectHistory
import SqlAssembly.Proofs.Text.SnakeCase

/-!
# The table of a declaration in a statement

A declaration that gives the table of its dataset gives it a name that has been read.  The name of
the type takes its place without being read, so it may be none, and there may be nothing left of
it.

* `Dataset.sql_select` — the SELECT of a dataset, and why it fails.
* `Declaration.table_of_given`, `Declaration.table_of_absent` — the two sources of the name.
* `Declaration.usable_table_iff` — when the name of a table can be read back, and when the dataset
  can be selected.
-/

set_option autoImplicit false

namespace SqlAssembly

/-- The SELECT of a dataset.  It fails only if nothing names the table. -/
theorem Dataset.sql_select (s : Dataset) :
    (Statement.select (Select.assemble [.dataset s])).sql =
      if s.table = "" then .error (.several [.unnamedTable, .noTable])
      else .ok ("SELECT " ++ Select.columnList s.columns ++ " FROM " ++ s.table ++ ";") := by
  have named : s.source.isNamed = (s.table != "") := Table.isNamed_named s.table
  have assembled : Select.assemble [.dataset s] =
      { columns := s.columns, target := ({} : Target).set s.source } := rfl
  rw [assembled]
  split
  · rename_i empty
    rw [empty] at named
    simp only [Target.set, named]
    rfl
  · rename_i nonempty
    rw [Target.set, named, if_pos (bne_iff_ne.2 nonempty), Statement.sql_eq_ok_iff]
    refine ⟨rfl, congrArg (· ++ ";") ?_⟩
    change _ = Select.body _
    rw [Select.body_eq_written]
    simp [Select.written, Select.columnList, Dataset.source, Table.sql_named, String.append_assoc]

namespace Declaration

variable {d : Declaration} {s : Dataset}

/-- A table that was given has been read. -/
theorem table_of_given (described : d.dataset = .ok s)
    (given : (lastTable (entriesOf d.attributes)).isSome) : isTableName s.table = true := by
  obtain ⟨-, fields, -, named, -⟩ := dataset_eq_ok_iff.1 described
  obtain ⟨-, -, read⟩ := table_eq_ok_iff.1 named
  obtain ⟨text, last⟩ := Option.isSome_iff_exists.1 given
  rw [last] at read
  obtain ⟨name, same⟩ := readTableName_eq_ok_iff.1 read
  rw [same]
  exact name

/-- The name of the type takes the place of a table that was not given. -/
theorem table_of_absent (described : d.dataset = .ok s)
    (absent : (lastTable (entriesOf d.attributes)).isSome = false) :
    s.table = snakeCase d.name.written := by
  obtain ⟨-, fields, -, named, -⟩ := dataset_eq_ok_iff.1 described
  obtain ⟨-, -, read⟩ := table_eq_ok_iff.1 named
  rw [Option.isNone_iff_eq_none.1 (Option.isSome_eq_false_iff.1 absent)] at read
  exact read

/-- **Which tables of declarations can be used.**  The table of a dataset that a declaration
describes is the name of a table exactly if it was given, or if the letters and digits of the type
are plain and a letter comes first.  The dataset can be selected exactly if its table was given or
there is any letter or digit in the name of the type. -/
theorem usable_table_iff (described : d.dataset = .ok s) :
    (readTableName s.table = .ok s.table ↔
        (lastTable (entriesOf d.attributes)).isSome ∨ IsPlainName d.name.written.toList) ∧
      ((Statement.select (Select.assemble [.dataset s])).sql =
          .ok ("SELECT " ++ Select.columnList s.columns ++ " FROM " ++ s.table ++ ";") ↔
        (lastTable (entriesOf d.attributes)).isSome ∨
          ∃ c ∈ d.name.written.toList, isAlphanumeric c = true) := by
  have selected : (Statement.select (Select.assemble [.dataset s])).sql =
      .ok ("SELECT " ++ Select.columnList s.columns ++ " FROM " ++ s.table ++ ";") ↔
        s.table ≠ "" := by
    rw [s.sql_select]
    split <;> simp_all
  rw [readTableName_self_iff, selected]
  cases given : (lastTable (entriesOf d.attributes)).isSome with
  | true =>
    have named := table_of_given described given
    have nonempty : s.table ≠ "" := by
      intro empty
      rw [empty] at named
      exact absurd named (by decide)
    exact ⟨iff_of_true named (Or.inl rfl), iff_of_true nonempty (Or.inl rfl)⟩
  | false =>
    rw [table_of_absent described given, isTableName_snakeCase_iff, snakeCase_ne_empty_iff]
    simp

/-- A type with a field `id` and without any option. -/
def bare (name : Word) : Declaration where
  name := name
  attributes := []
  shape := .record [⟨⟨"id", false⟩, []⟩]

theorem usable_table_bare :
    (bare ⟨"APIKey", false⟩).dataset = .ok ⟨"api_key", ["id"]⟩ ∧
      readTableName "api_key" = .ok "api_key" ∧
        (Statement.select (Select.assemble [.dataset ⟨"api_key", ["id"]⟩])).sql =
          .ok "SELECT id FROM api_key;" := by
  have described : (bare ⟨"APIKey", false⟩).dataset = .ok ⟨"api_key", ["id"]⟩ := by decide
  obtain ⟨read, selected⟩ := usable_table_iff described
  have usual : ("APIKey").toList.all Char.isAlphanum = true := by decide
  have plain : IsPlainName ("APIKey").toList :=
    ⟨fun c found _ => Or.inl (List.all_eq_true.1 usual c found), 'A', by decide, by decide⟩
  exact ⟨described, read.2 (Or.inr plain), selected.2 (Or.inr ⟨'A', by decide, by decide⟩)⟩

/-- Nothing is left of a type named by underscores only, and then nothing names the table; a
digit is left in front where an underscore stood before it, and then the table has no identifier
for its name. -/
theorem unusable_table_bare :
    (bare ⟨"___", false⟩).dataset = .ok ⟨"", ["id"]⟩ ∧
      readTableName "" = .error (.blank "table name") ∧
        (∀ sql, (Statement.select (Select.assemble [.dataset ⟨"", ["id"]⟩])).sql ≠ .ok sql) ∧
          (bare ⟨"_2fa", false⟩).dataset = .ok ⟨"2fa", ["id"]⟩ ∧
            readTableName "2fa" = .error (.noTableName "2fa") := by
  refine ⟨by decide, by decide, fun sql selected => ?_, by decide, by decide⟩
  rw [Dataset.sql_select] at selected
  cases selected

end Declaration

end SqlAssembly
