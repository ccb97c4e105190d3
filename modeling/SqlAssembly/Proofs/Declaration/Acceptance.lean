import Mathlib.Data.List.Nodup
import SqlAssembly.Declaration
import SqlAssembly.Proofs.Declaration.Entries
import SqlAssembly.Proofs.Schema.Identifier

/-!
# Which declarations describe a dataset

The conditions on a declaration under which it describes a dataset, and the columns that it then
has, told from the entries of its attributes.

* `Field.columnName` — the column of a field: the text given last, or else its name.
* `Field.IsSound` — what a field must be like by itself.
* `columnNames` — the columns of the fields that are not skipped.
* `columnsOf_eq_ok_iff` — fields have columns when each is sound and no column is repeated.
* `Declaration.table_eq_ok_iff` — when a declaration has a table, and which.
* `Declaration.Accepted` — the conditions on a declaration.
* `Declaration.dataset_insert_skipped` — a skipped field can stand anywhere among the others.
* `dataset_accepts_iff` — these are the ones under which it describes a dataset.
-/

set_option autoImplicit false

namespace SqlAssembly

/-! ## Entries that are absent -/

theorem lastTable_eq_none_iff {entries : List Entry} :
    lastTable entries = none ↔ ∀ name, Entry.table name ∉ entries := by
  rw [lastTable, List.getLast?_eq_none_iff, List.filterMap_eq_nil_iff]
  constructor
  · intro absent name found
    cases absent _ found
  · intro absent entry found
    cases entry with
    | table name => exact absurd found (absent name)
    | column | skip => rfl

theorem lastColumn_eq_none_iff {entries : List Entry} :
    lastColumn entries = none ↔ ∀ name, Entry.column name ∉ entries := by
  rw [lastColumn, List.getLast?_eq_none_iff, List.filterMap_eq_nil_iff]
  constructor
  · intro absent name found
    cases absent _ found
  · intro absent entry found
    cases entry with
    | column name => exact absurd found (absent name)
    | table | skip => rfl

/-! ## Fields -/

namespace Field

/-- The entries of a field. -/
def entries (f : Field) : List Entry := entriesOf f.attributes

def isSkipped (f : Field) : Bool := f.entries.contains .skip

/-- The text that names the column: the one given last, or else the name of the field without the
mark of a raw word. -/
def source (f : Field) : String := (lastColumn f.entries).getD f.name.text

/-- The column of a field. -/
def columnName (f : Field) : String := trim f.source

/-- What a field must be like by itself.  The text that names its column matters only if it is
not skipped. -/
structure IsSound (f : Field) : Prop where
  wellFormed : ∀ a ∈ f.attributes, a.IsWellFormed
  noTable : ∀ name, Entry.table name ∉ f.entries
  identifier : f.isSkipped = false → isIdentifier f.columnName = true

variable {f : Field}

/-- A sound field has a column unless it is skipped, and no other field has one. -/
theorem column_eq_ok_iff {found : Option String} :
    f.column = .ok found ↔
      f.IsSound ∧ found = if f.isSkipped then none else some f.columnName := by
  constructor
  · intro h
    unfold column at h
    split at h
    · cases h
    · rename_i options read
      obtain ⟨wellFormed, rfl⟩ := readOptions_eq_ok_iff.1 read
      split at h
      · cases h
      · rename_i table
        have noTable := lastTable_eq_none_iff.1 (Option.not_isSome_iff_eq_none.1 table)
        split at h
        · rename_i skipped
          cases h
          refine ⟨⟨wellFormed, noTable, fun kept => ?_⟩, (if_pos skipped).symm⟩
          exact Bool.noConfusion (skipped.symm.trans kept)
        · rename_i kept
          split at h
          · cases h
          · rename_i name named
            cases h
            obtain ⟨identifier, rfl⟩ := readIdentifier_eq_ok_iff.1 named
            exact ⟨⟨wellFormed, noTable, fun _ => identifier⟩, (if_neg kept).symm⟩
  · rintro ⟨sound, rfl⟩
    have table : lastTable (entriesOf f.attributes) = none := lastTable_eq_none_iff.2 sound.noTable
    rw [column, readOptions_of_wellFormed sound.wellFormed]
    dsimp only
    rw [table, if_neg (by simp)]
    cases skipped : f.isSkipped with
    | true => exact if_pos skipped
    | false =>
      have named : readIdentifier "column" f.source = .ok f.columnName :=
        readIdentifier_eq_ok_iff.2 ⟨sound.identifier skipped, rfl⟩
      refine (if_neg (Bool.eq_false_iff.1 skipped)).trans ?_
      rw [source, entries] at named
      rw [named]
      rfl

end Field

/-! ## Columns -/

/-- The columns of the fields that are not skipped, in the order of the fields. -/
def columnNames (fields : List Field) : List String :=
  (fields.filter fun f => !f.isSkipped).map Field.columnName

theorem columnNames_append (first second : List Field) :
    columnNames (first ++ second) = columnNames first ++ columnNames second := by
  simp [columnNames]

theorem columnNames_of_skipped {f : Field} (h : f.isSkipped = true) : columnNames [f] = [] := by
  simp [columnNames, h]

theorem columnNames_of_kept {f : Field} (h : f.isSkipped = false) :
    columnNames [f] = [f.columnName] := by
  simp [columnNames, h]

/-- A skipped field adds nothing, whatever its column would be. -/
theorem addColumn_of_skipped {present more : List String} {f : Field} (h : f.isSkipped = true) :
    addColumn present f = .ok more ↔ f.IsSound ∧ more = present := by
  constructor
  · intro added
    unfold addColumn at added
    split at added
    · cases added
    · rename_i found
      cases added
      exact ⟨(Field.column_eq_ok_iff.1 found).1, rfl⟩
    · rename_i column found
      have given := (Field.column_eq_ok_iff.1 found).2
      rw [if_pos h] at given
      cases given
  · rintro ⟨sound, rfl⟩
    rw [addColumn, Field.column_eq_ok_iff.2 ⟨sound, (if_pos h).symm⟩]

/-- Any other field adds its column, which must be new. -/
theorem addColumn_of_kept {present more : List String} {f : Field} (h : f.isSkipped = false) :
    addColumn present f = .ok more ↔
      f.IsSound ∧ f.columnName ∉ present ∧ more = present ++ [f.columnName] := by
  have kept : ¬ f.isSkipped = true := Bool.eq_false_iff.1 h
  constructor
  · intro added
    unfold addColumn at added
    split at added
    · cases added
    · rename_i found
      have noColumn := (Field.column_eq_ok_iff.1 found).2
      rw [if_neg kept] at noColumn
      cases noColumn
    · rename_i column found
      obtain ⟨sound, named⟩ := Field.column_eq_ok_iff.1 found
      rw [if_neg kept, Option.some.injEq] at named
      split at added
      · cases added
      · rename_i new
        cases added
        rw [List.contains_iff_mem, named] at new
        exact ⟨sound, new, by rw [named]⟩
  · rintro ⟨sound, new, rfl⟩
    rw [addColumn, Field.column_eq_ok_iff.2 ⟨sound, (if_neg kept).symm⟩]
    exact if_neg (by simpa using new)

/-- One more field adds what it has. -/
theorem addColumn_eq_ok_iff {present more : List String} {f : Field} (distinct : present.Nodup) :
    addColumn present f = .ok more ↔
      f.IsSound ∧ (present ++ columnNames [f]).Nodup ∧ more = present ++ columnNames [f] := by
  cases h : f.isSkipped with
  | true =>
    rw [addColumn_of_skipped h, columnNames_of_skipped h, List.append_nil]
    simp [distinct]
  | false =>
    have new : (present ++ [f.columnName]).Nodup ↔ f.columnName ∉ present := by
      rw [List.nodup_append_comm, List.singleton_append, List.nodup_cons, and_iff_left distinct]
    rw [addColumn_of_kept h, columnNames_of_kept h, new]

/-- Further fields add their columns, which must all be new and different. -/
theorem foldlM_addColumn_eq_ok_iff {fields : List Field} {present more : List String}
    (distinct : present.Nodup) :
    fields.foldlM addColumn present = .ok more ↔
      (∀ f ∈ fields, f.IsSound) ∧ (present ++ columnNames fields).Nodup ∧
        more = present ++ columnNames fields := by
  induction fields generalizing present with
  | nil => simp [columnNames, distinct, pure, Except.pure, eq_comm]
  | cons f fields ih =>
    have split := columnNames_append [f] fields
    rw [List.singleton_append] at split
    rw [List.foldlM_cons, bind_eq_ok_iff, List.forall_mem_cons, split, ← List.append_assoc]
    constructor
    · rintro ⟨mid, added, rest⟩
      obtain ⟨sound, distinct', rfl⟩ := (addColumn_eq_ok_iff distinct).1 added
      obtain ⟨others, all, rfl⟩ := (ih distinct').1 rest
      exact ⟨⟨sound, others⟩, all, rfl⟩
    · rintro ⟨⟨sound, others⟩, all, rfl⟩
      have distinct' : (present ++ columnNames [f]).Nodup := (List.nodup_append.1 all).1
      exact ⟨_, (addColumn_eq_ok_iff distinct).2 ⟨sound, distinct', rfl⟩,
        (ih distinct').2 ⟨others, all, rfl⟩⟩

theorem columnsOf_eq_ok_iff {fields : List Field} {columns : List String} :
    columnsOf fields = .ok columns ↔
      (∀ f ∈ fields, f.IsSound) ∧ (columnNames fields).Nodup ∧ columns = columnNames fields := by
  have := @foldlM_addColumn_eq_ok_iff fields [] columns List.nodup_nil
  rwa [List.nil_append] at this

/-! ## Declarations -/

namespace Declaration

variable {d : Declaration}

/-- The table that was given last, as it is read, or else the name of the type in snake case. -/
theorem table_eq_ok_iff {name : String} :
    d.table = .ok name ↔
      (∀ a ∈ d.attributes, a.IsWellFormed) ∧
        (∀ text, Entry.column text ∉ entriesOf d.attributes) ∧
          match lastTable (entriesOf d.attributes) with
          | none => name = snakeCase d.name.written
          | some text => readTableName text = .ok name := by
  by_cases wellFormed : ∀ a ∈ d.attributes, a.IsWellFormed
  · rw [table, readOptions_of_wellFormed wellFormed, and_iff_right wellFormed,
      ← lastColumn_eq_none_iff]
    dsimp only
    cases lastColumn (entriesOf d.attributes) with
    | some text => simp
    | none =>
      cases lastTable (entriesOf d.attributes) with
      | none => simp [eq_comm]
      | some text => cases read : readTableName text <;> simp [read]
  · obtain ⟨flaw, failed⟩ := exists_readOptions_eq_error wellFormed
    rw [table, failed]
    simp [wellFormed]

/-- The conditions under which a declaration with these fields describes a dataset, once its words
are spelled. -/
structure Accepted (d : Declaration) (fields : List Field) : Prop where
  record : d.shape = .record fields
  wellFormed : ∀ a ∈ d.attributes, a.IsWellFormed
  noColumn : ∀ text, Entry.column text ∉ entriesOf d.attributes
  table : ∀ text, lastTable (entriesOf d.attributes) = some text →
    ∃ name, readTableName text = .ok name
  sound : ∀ f ∈ fields, f.IsSound
  distinct : (columnNames fields).Nodup

theorem fields_eq_ok_iff {fields : List Field} :
    d.fields = .ok fields ↔ d.shape = .record fields := by
  unfold Declaration.fields
  cases d.shape <;> simp

/-- What a dataset is made of when nothing stands in its way. -/
theorem dataset_eq_ok_iff {s : Dataset} :
    d.dataset = .ok s ↔
      d.spelled = .ok () ∧
        ∃ fields, d.shape = .record fields ∧ d.table = .ok s.table ∧
          columnsOf fields = .ok s.columns := by
  constructor
  · intro h
    obtain ⟨_, spelled, h⟩ := bind_eq_ok_iff.1 h
    obtain ⟨fields, record, h⟩ := bind_eq_ok_iff.1 h
    obtain ⟨table, named, h⟩ := bind_eq_ok_iff.1 h
    obtain ⟨columns, found, h⟩ := bind_eq_ok_iff.1 h
    cases h
    exact ⟨spelled, fields, fields_eq_ok_iff.1 record, named, found⟩
  · rintro ⟨spelled, fields, record, named, found⟩
    exact bind_eq_ok_iff.2 ⟨_, spelled, bind_eq_ok_iff.2 ⟨_, fields_eq_ok_iff.2 record,
      bind_eq_ok_iff.2 ⟨_, named, bind_eq_ok_iff.2 ⟨_, found, rfl⟩⟩⟩⟩

/-- A declaration whose words are spelled describes a dataset when the conditions hold. -/
theorem dataset_eq_ok_iff_accepted (spelled : d.spelled = .ok ()) {s : Dataset} :
    d.dataset = .ok s ↔
      ∃ fields, d.Accepted fields ∧ d.table = .ok s.table ∧ s.columns = columnNames fields := by
  rw [dataset_eq_ok_iff, and_iff_right spelled]
  refine exists_congr fun fields => ?_
  rw [columnsOf_eq_ok_iff]
  constructor
  · rintro ⟨record, named, sound, distinct, columns⟩
    obtain ⟨wellFormed, noColumn, read⟩ := table_eq_ok_iff.1 named
    refine ⟨⟨record, wellFormed, noColumn, ?_, sound, distinct⟩, named, columns⟩
    intro text given
    rw [given] at read
    exact ⟨_, read⟩
  · rintro ⟨accepted, named, columns⟩
    exact ⟨accepted.record, named, accepted.sound, accepted.distinct, columns⟩

/-- Such a declaration has a table. -/
theorem Accepted.exists_table {fields : List Field} (h : d.Accepted fields) :
    ∃ name, d.table = .ok name := by
  cases given : lastTable (entriesOf d.attributes) with
  | none =>
    refine ⟨snakeCase d.name.written, table_eq_ok_iff.2 ⟨h.wellFormed, h.noColumn, ?_⟩⟩
    rw [given]
  | some text =>
    obtain ⟨name, read⟩ := h.table text given
    refine ⟨name, table_eq_ok_iff.2 ⟨h.wellFormed, h.noColumn, ?_⟩⟩
    rwa [given]

/-- Every column of such a declaration is an identifier. -/
theorem Accepted.isIdentifier_of_mem {fields : List Field} (h : d.Accepted fields) {column : String}
    (found : column ∈ columnNames fields) : isIdentifier column = true := by
  obtain ⟨f, kept, rfl⟩ := List.mem_map.1 found
  obtain ⟨listed, kept⟩ := List.mem_filter.1 kept
  exact (h.sound f listed).identifier (by simpa using kept)

end Declaration

/-! ## Skipped fields -/

theorem forM_eq_ok_iff {ε α : Type} {check : α → Except ε Unit} {list : List α} :
    list.forM check = .ok () ↔ ∀ a ∈ list, check a = .ok () := by
  induction list with
  | nil => simp [pure, Except.pure]
  | cons a rest ih =>
    rw [List.forM, bind_eq_ok_iff, List.forall_mem_cons, ← ih]
    exact ⟨fun ⟨_, first, others⟩ => ⟨first, others⟩, fun ⟨first, others⟩ => ⟨(), first, others⟩⟩

/-- What passes among the others leaves their result alone. -/
theorem forM_insert_of_ok {ε α : Type} {check : α → Except ε Unit} {before after : List α} {a : α}
    (passes : check a = .ok ()) :
    (before ++ a :: after).forM check = (before ++ after).forM check := by
  have rest : (a :: after).forM check = after.forM check := by
    rw [List.forM, passes]
    rfl
  calc (before ++ a :: after).forM check
      = before.forM check >>= fun _ => (a :: after).forM check := List.forM_append
    _ = before.forM check >>= fun _ => after.forM check := by rw [rest]
    _ = (before ++ after).forM check := List.forM_append.symm

/-- Columns are the same without a skipped field, whatever text its column was given. -/
theorem columnsOf_without_skipped {before after : List Field} {f : Field}
    (skipped : f.isSkipped = true) (wellFormed : ∀ a ∈ f.attributes, a.IsWellFormed)
    (noTable : ∀ name, Entry.table name ∉ f.entries) :
    columnsOf (before ++ f :: after) = columnsOf (before ++ after) := by
  have sound : f.IsSound := by
    refine ⟨wellFormed, noTable, fun kept => ?_⟩
    exact Bool.noConfusion (skipped.symm.trans kept)
  have adds : ∀ present, addColumn present f = .ok present := fun present =>
    (addColumn_of_skipped skipped).2 ⟨sound, rfl⟩
  rw [columnsOf_append, columnsOf_append]
  refine congrArg _ (funext fun present => ?_)
  rw [List.foldlM_cons, adds]
  rfl

namespace Declaration

variable {d : Declaration}

/-- The same declaration as a record with these fields. -/
def withFields (d : Declaration) (fields : List Field) : Declaration :=
  { d with shape := .record fields }

/-- The fields are spelled last. -/
theorem spelled_withFields (fields : List Field) :
    (d.withFields fields).spelled =
      d.attributes.forM Attribute.spelled >>= fun _ =>
        if d.name.isReserved || d.name.isUnderscore then .error (.reserved d.name.written)
        else fields.forM Field.spelled := rfl

/-- Where all words are spelled, those of the fields are. -/
theorem forM_spelled_of_withFields {fields : List Field}
    (spelled : (d.withFields fields).spelled = .ok ()) : fields.forM Field.spelled = .ok () := by
  rw [spelled_withFields] at spelled
  obtain ⟨_, -, named⟩ := bind_eq_ok_iff.1 spelled
  split at named
  · cases named
  · exact named

/-- The words come first, then the table and then the columns. -/
theorem dataset_withFields (fields : List Field) :
    (d.withFields fields).dataset =
      (d.withFields fields).spelled >>= fun _ => d.table >>= fun table =>
        columnsOf fields >>= fun columns => .ok { table, columns } := rfl

/-- A skipped field makes no difference where it stands, to a dataset or to a flaw. -/
theorem dataset_insert_skipped {before after : List Field} {f : Field}
    (spelled : f.spelled = .ok ()) (skipped : f.isSkipped = true)
    (wellFormed : ∀ a ∈ f.attributes, a.IsWellFormed)
    (noTable : ∀ name, Entry.table name ∉ f.entries) :
    (d.withFields (before ++ f :: after)).dataset = (d.withFields (before ++ after)).dataset := by
  have same : (d.withFields (before ++ f :: after)).spelled =
      (d.withFields (before ++ after)).spelled := by
    rw [spelled_withFields, spelled_withFields, forM_insert_of_ok spelled]
  rw [dataset_withFields, dataset_withFields, same,
    columnsOf_without_skipped skipped wellFormed noTable]

theorem dataset_without_skipped (spelled : d.spelled = .ok ()) {before after : List Field}
    {f : Field} (record : d.shape = .record (before ++ f :: after)) (skipped : f.isSkipped = true)
    (wellFormed : ∀ a ∈ f.attributes, a.IsWellFormed)
    (noTable : ∀ name, Entry.table name ∉ f.entries) :
    d.dataset = { d with shape := .record (before ++ after) }.dataset := by
  have whole : d.withFields (before ++ f :: after) = d := by rw [withFields, ← record]
  have fields := forM_spelled_of_withFields ((congrArg Declaration.spelled whole).trans spelled)
  have listed : f ∈ before ++ f :: after := List.mem_append_right _ List.mem_cons_self
  calc d.dataset = (d.withFields (before ++ f :: after)).dataset := by rw [whole]
    _ = (d.withFields (before ++ after)).dataset :=
      dataset_insert_skipped (forM_eq_ok_iff.1 fields f listed) skipped wellFormed noTable

/-- **Which declarations describe a dataset, and with which columns.**  A declaration whose words
are spelled describes a dataset exactly when the conditions hold.  The columns of the dataset are
the ones of the fields that are not skipped, in their order; all are identifiers, and no two are
the same.  Without a skipped field whose options can be read, the declaration describes the same
dataset or has the same flaw, whatever column the field would have. -/
theorem dataset_accepts_iff (spelled : d.spelled = .ok ()) :
    ((∃ s, d.dataset = .ok s) ↔ ∃ fields, d.Accepted fields) ∧
      (∀ s fields, d.dataset = .ok s → d.shape = .record fields →
        s.columns = columnNames fields ∧ (∀ column ∈ s.columns, isIdentifier column = true) ∧
          s.columns.Nodup) ∧
        ∀ before f after, d.shape = .record (before ++ f :: after) → f.isSkipped = true →
          (∀ a ∈ f.attributes, a.IsWellFormed) → (∀ name, Entry.table name ∉ f.entries) →
            d.dataset = { d with shape := .record (before ++ after) }.dataset := by
  refine ⟨⟨?_, ?_⟩, ?_, fun _ _ _ => dataset_without_skipped spelled⟩
  · rintro ⟨s, described⟩
    obtain ⟨fields, accepted, -⟩ := (dataset_eq_ok_iff_accepted spelled).1 described
    exact ⟨fields, accepted⟩
  · rintro ⟨fields, accepted⟩
    obtain ⟨table, named⟩ := accepted.exists_table
    exact ⟨⟨table, columnNames fields⟩,
      (dataset_eq_ok_iff_accepted spelled).2 ⟨fields, accepted, named, rfl⟩⟩
  · intro s fields described record
    obtain ⟨_, accepted, -, columns⟩ := (dataset_eq_ok_iff_accepted spelled).1 described
    cases accepted.record.symm.trans record
    rw [columns]
    exact ⟨rfl, fun _ => accepted.isIdentifier_of_mem, accepted.distinct⟩

/-- A skipped field that claims the column of another one. -/
def claimingField : Field where
  name := ⟨"cache", false⟩
  attributes :=
    [⟨⟨"db", false⟩, .tokens ((Entry.column "type").tokens ++ .comma :: Entry.skip.tokens)⟩]

/-- The field in front has a raw name, and the one behind it a column with blanks around it. -/
def accountFields : List Field :=
  [⟨⟨"type", true⟩, []⟩,
    ⟨⟨"owner", false⟩, [⟨⟨"db", false⟩, .tokens (Entry.column " owner_id\n").tokens⟩]⟩]

def account : Declaration where
  name := ⟨"Account", false⟩
  attributes := [⟨⟨"db", false⟩, .tokens (Entry.table " app.accounts ").tokens⟩]
  shape := .record (accountFields ++ [claimingField])

theorem dataset_account :
    account.spelled = .ok () ∧ account.Accepted (accountFields ++ [claimingField]) ∧
      columnNames (accountFields ++ [claimingField]) = ["type", "owner_id"] ∧
        { account with shape := .record accountFields }.dataset =
          .ok ⟨"app.accounts", ["type", "owner_id"]⟩ := by
  have spelled : account.spelled = .ok () := by decide
  have described : account.dataset = .ok ⟨"app.accounts", ["type", "owner_id"]⟩ := by decide
  obtain ⟨accepts, columns, skips⟩ := dataset_accepts_iff spelled
  obtain ⟨fields, accepted⟩ := accepts.1 ⟨_, described⟩
  cases accepted.record
  have sound : claimingField.IsSound := accepted.sound _ (by decide)
  have same := skips accountFields claimingField [] rfl (by decide) sound.wellFormed sound.noTable
  rw [List.append_nil] at same
  exact ⟨spelled, accepted, (columns _ _ described rfl).1.symm, same.symm.trans described⟩

end Declaration

end SqlAssembly
