import SqlAssembly.Proofs.Declaration.Acceptance

/-!
# Declarations with more fields

What a declaration describes is decided field by field, so fields behind others can add columns or
a flaw of their own and change nothing else, and a skipped field changes nothing at all.

* `Declaration.spelled_append` — further fields that are spelled make no difference to the spelling
  of the others.
* `Declaration.dataset_append_of_error`, `Declaration.dataset_append_of_ok` — what further fields do
  to a flaw and to a dataset.
* `Declaration.dataset_more_fields` — these together, and that a skipped field can stand anywhere.
-/

set_option autoImplicit false

namespace SqlAssembly

/-- What passes behind the others leaves their result alone. -/
theorem forM_append_of_ok {ε α : Type} {check : α → Except ε Unit} {first second : List α}
    (passes : second.forM check = .ok ()) :
    (first ++ second).forM check = first.forM check := by
  calc (first ++ second).forM check
      = first.forM check >>= fun _ => second.forM check := List.forM_append
    _ = first.forM check := by
        rw [passes]
        cases first.forM check <;> rfl

namespace Declaration

variable {d : Declaration} {first second : List Field}

/-- Fields behind the others that are spelled make no difference to the spelling of these. -/
theorem spelled_append
    (spelled : (d.withFields (first ++ second)).spelled = .ok ()) :
    (d.withFields first).spelled = (d.withFields (first ++ second)).spelled := by
  have all := forM_eq_ok_iff.1 (forM_spelled_of_withFields spelled)
  have behind : second.forM Field.spelled = .ok () :=
    forM_eq_ok_iff.2 fun f listed => all f (List.mem_append_right first listed)
  rw [spelled_withFields, spelled_withFields, forM_append_of_ok behind]

/-- A flaw is reported whatever fields follow, as long as these are spelled. -/
theorem dataset_append_of_error {flaw : Flaw}
    (spelled : (d.withFields (first ++ second)).spelled = .ok ())
    (failed : (d.withFields first).dataset = .error flaw) :
    (d.withFields (first ++ second)).dataset = .error flaw := by
  rw [dataset_withFields, spelled_append spelled, spelled] at failed
  rw [dataset_withFields, spelled]
  cases named : d.table with
  | error other =>
    rw [named] at failed
    exact failed
  | ok table =>
    rw [named] at failed
    cases found : columnsOf first with
    | error other =>
      rw [found] at failed
      rw [columnsOf_append, found]
      exact failed
    | ok columns =>
      rw [found] at failed
      cases failed

/-- Fields behind those of a dataset add their columns, or a flaw. -/
theorem dataset_append_of_ok {s : Dataset}
    (spelled : (d.withFields (first ++ second)).spelled = .ok ())
    (described : (d.withFields first).dataset = .ok s) :
    (∃ flaw, (d.withFields (first ++ second)).dataset = .error flaw) ∨
      (d.withFields (first ++ second)).dataset =
        .ok ⟨s.table, s.columns ++ columnNames second⟩ := by
  obtain ⟨-, _, record, named, found⟩ := dataset_eq_ok_iff.1 described
  cases record
  have table : d.table = .ok s.table := named
  have present : s.columns = columnNames first := (columnsOf_eq_ok_iff.1 found).2.2
  rw [dataset_withFields, spelled, table]
  cases all : columnsOf (first ++ second) with
  | error flaw => exact Or.inl ⟨flaw, rfl⟩
  | ok columns =>
    have together : columns = columnNames (first ++ second) := (columnsOf_eq_ok_iff.1 all).2.2
    rw [together, columnNames_append, ← present]
    exact Or.inr rfl

/-- **What a declaration describes depends on its fields from the first to the last.**  Where the
words are spelled, a flaw of a declaration is also the flaw of the one with more fields behind.  A
dataset keeps its table and its columns, and the columns of the fields behind follow, unless these
have a flaw.  A skipped field with well-formed attributes and without a table can stand anywhere
and makes no difference. -/
theorem dataset_more_fields
    (spelled : (d.withFields (first ++ second)).spelled = .ok ()) :
    (∀ flaw, (d.withFields first).dataset = .error flaw →
      (d.withFields (first ++ second)).dataset = .error flaw) ∧
    (∀ s, (d.withFields first).dataset = .ok s →
      (∃ flaw, (d.withFields (first ++ second)).dataset = .error flaw) ∨
        (d.withFields (first ++ second)).dataset =
          .ok ⟨s.table, s.columns ++ columnNames second⟩) ∧
    ∀ before f after, f.spelled = .ok () → (∀ a ∈ f.attributes, a.IsWellFormed) →
      Entry.skip ∈ f.entries → (∀ name, Entry.table name ∉ f.entries) →
        (d.withFields (before ++ f :: after)).dataset =
          (d.withFields (before ++ after)).dataset := by
  refine ⟨fun _ => dataset_append_of_error spelled, fun _ => dataset_append_of_ok spelled, ?_⟩
  intro before f after spelled wellFormed skip noTable
  exact dataset_insert_skipped spelled (List.contains_iff_mem.2 skip) wellFormed noTable

/-- A field without options. -/
def plainField (name : String) : Field := ⟨⟨name, false⟩, []⟩

/-- The second field has the column of the one in front of it. -/
def rivalFields : List Field := accountFields ++ [plainField "owner_id"]

theorem dataset_more_fields_account :
    (account.withFields (rivalFields ++ [plainField "note"])).dataset =
        .error (.repeatedColumn "owner_id") ∧
      (account.withFields (accountFields ++ [plainField "note"])).dataset =
          .ok ⟨"app.accounts", ["type", "owner_id"] ++ ["note"]⟩ ∧
        (account.withFields ([] ++ claimingField :: accountFields)).dataset =
          .ok ⟨"app.accounts", ["type", "owner_id"]⟩ := by
  have failed : (account.withFields rivalFields).dataset = .error (.repeatedColumn "owner_id") := by
    decide
  have described : (account.withFields accountFields).dataset =
      .ok ⟨"app.accounts", ["type", "owner_id"]⟩ := by decide
  have rival : (account.withFields (rivalFields ++ [plainField "note"])).spelled = .ok () := by
    decide
  have more : (account.withFields (accountFields ++ [plainField "note"])).spelled = .ok () := by
    decide
  obtain ⟨keepsFlaw, -, -⟩ := dataset_more_fields rival
  obtain ⟨-, adds, inserts⟩ := dataset_more_fields more
  have skipped : (account.withFields ([] ++ claimingField :: accountFields)).dataset =
      (account.withFields ([] ++ accountFields)).dataset := by
    refine inserts [] claimingField accountFields (by decide) ?_ (by decide) ?_
    · exact List.forall_mem_singleton.2 fun _ =>
        ⟨_, [.column "type", .skip], rfl, Or.inl rfl⟩
    · exact lastTable_eq_none_iff.1 rfl
  refine ⟨keepsFlaw _ failed, ?_, skipped.trans described⟩
  rcases adds _ described with ⟨flaw, later⟩ | both
  · have whole : (account.withFields (accountFields ++ [plainField "note"])).dataset.isOk := by
      decide
    rw [later] at whole
    cases whole
  · exact both

end Declaration

end SqlAssembly
