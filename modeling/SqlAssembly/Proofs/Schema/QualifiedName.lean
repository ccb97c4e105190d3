import SqlAssembly.Proofs.Schema.Identifier

/-!
# Which texts name a table

The name of a table is made of identifiers with a point between any two of them, however many there
are.

* `IsPath` — a name that is made of given identifiers.
* `isTableName_iff` — the names of tables are made of identifiers, at least one.
* `IsPath.count_point` — there is one identifier more than there are points.
* `isPlainOrQualified_iff` — the names of tables that are an identifier, or a table behind its
  schema, are those with at most one point.
* `readTableName_grammar` — which texts are read as the name of a table, and what is reported of the
  others.
-/

set_option autoImplicit false

namespace SqlAssembly

/-! ## Identifiers in a row -/

theorem point_not_mem_of_isIdentifier {text : String} (h : isIdentifier text = true) :
    '.' ∉ text.toList := by
  intro found
  exact absurd (continuesIdentifier_of_mem h '.' found) (by decide)

/-- A name is made of identifiers, of which there is at least one, with points between them. -/
structure IsPath (parts : List String) (name : String) : Prop where
  nonempty : parts ≠ []
  identifiers : ∀ part ∈ parts, isIdentifier part = true
  joined : name = ".".intercalate parts

variable {parts : List String} {name : String}

/-- The identifiers are what stands between the points. -/
theorem IsPath.splitOn (h : IsPath parts name) :
    name.toList.splitOn '.' = parts.map String.toList := by
  have point : ".".toList = ['.'] := by decide
  have solid : ∀ part ∈ parts.map String.toList, '.' ∉ part :=
    List.forall_mem_map.2 fun part listed =>
      point_not_mem_of_isIdentifier (h.identifiers part listed)
  have nonempty : parts.map String.toList ≠ [] := by simpa using h.nonempty
  rw [h.joined, String.toList_intercalate, point, List.splitOn_intercalate '.' solid nonempty]

/-- The names of tables are made of identifiers. -/
theorem isTableName_iff : isTableName name = true ↔ ∃ parts, IsPath parts name := by
  rw [isTableName, List.all_eq_true]
  constructor
  · intro identifiers
    have same : String.toList ∘ String.ofList = id := funext fun _ => String.toList_ofList
    have point : ".".toList = ['.'] := by decide
    refine ⟨(name.toList.splitOn '.').map String.ofList, ?_, ?_, ?_⟩
    · simp [List.splitOn_ne_nil]
    · refine List.forall_mem_map.2 fun part listed => ?_
      rw [isIdentifier, String.toList_ofList]
      exact identifiers part listed
    · rw [← String.toList_inj, String.toList_intercalate, point, List.map_map, same, List.map_id,
        List.intercalate_splitOn]
  · rintro ⟨parts, path⟩
    rw [path.splitOn]
    exact List.forall_mem_map.2 path.identifiers

/-- A text has one part more than points. -/
theorem length_splitOn (chars : List Char) :
    (chars.splitOn '.').length = chars.count '.' + 1 := by
  induction chars with
  | nil => rfl
  | cons c rest ih =>
    rw [List.splitOn_cons_eq_if_modifyHead]
    by_cases point : c = '.'
    · simp [point, ih]
    · simp [point, ih]

theorem IsPath.count_point (h : IsPath parts name) :
    name.toList.count '.' + 1 = parts.length := by
  rw [← length_splitOn, h.splitOn, List.length_map]

/-! ## One or two identifiers -/

/-- A table by its own name, or behind the name of its schema. -/
def IsPlainOrQualified (name : String) : Prop :=
  isIdentifier name = true ∨
    ∃ schema table, isIdentifier schema = true ∧ isIdentifier table = true ∧
      name = schema ++ "." ++ table

theorem isPlainOrQualified_iff_path :
    IsPlainOrQualified name ↔ ∃ parts, IsPath parts name ∧ parts.length ≤ 2 := by
  constructor
  · rintro (identifier | ⟨schema, table, first, second, rfl⟩)
    · exact ⟨[name], ⟨List.cons_ne_nil _ _, List.forall_mem_singleton.2 identifier,
        String.intercalate_singleton.symm⟩, by simp⟩
    · refine ⟨[schema, table], ⟨List.cons_ne_nil _ _, ?_, ?_⟩, le_rfl⟩
      · exact List.forall_mem_cons.2 ⟨first, List.forall_mem_singleton.2 second⟩
      · rw [String.intercalate_cons_cons, String.intercalate_singleton]
  · rintro ⟨parts, path, few⟩
    match parts, path, few with
    | [], path, _ => exact absurd rfl path.nonempty
    | [own], path, _ =>
      have joined := path.joined
      rw [String.intercalate_singleton] at joined
      rw [joined]
      exact Or.inl (path.identifiers own List.mem_cons_self)
    | [schema, table], path, _ =>
      have joined := path.joined
      rw [String.intercalate_cons_cons, String.intercalate_singleton] at joined
      exact Or.inr ⟨schema, table, path.identifiers schema (by simp),
        path.identifiers table (by simp), joined⟩
    | _ :: _ :: _ :: _, _, few => simp at few

/-- These are the names of tables with at most one point. -/
theorem isPlainOrQualified_iff :
    IsPlainOrQualified name ↔ isTableName name = true ∧ name.toList.count '.' ≤ 1 := by
  rw [isPlainOrQualified_iff_path, isTableName_iff, ← exists_and_right]
  refine exists_congr fun parts => and_congr_right fun path => ?_
  rw [← path.count_point]
  omega

/-! ## Reading names -/

/-- The reports on a name that is none and on one that is missing are worded differently. -/
theorem message_noTableName_ne (name : String) :
    (NameFault.noTableName name).message ≠ "table name must not be empty" := by
  intro same
  have twelfth := congrArg (fun text => text.toList[11]?) same
  simp [NameFault.message] at twelfth

/-- A name is reported missing when there are only blanks. -/
theorem reported_missing_iff {text : String} :
    (∃ fault, readTableName text = .error fault ∧
      fault.message = "table name must not be empty") ↔ trim text = "" := by
  unfold readTableName
  dsimp only
  constructor
  · rintro ⟨fault, refused, worded⟩
    split at refused
    · assumption
    · split at refused
      · cases refused
      · cases refused
        exact absurd worded (message_noTableName_ne _)
  · intro blank
    exact ⟨.blank "table name", if_pos blank, rfl⟩

/-- **Which texts are read as the name of a table.**  A text is read if it is made of identifiers
with points between them once the blanks at its ends are gone, and it is read as what is left then.
Among the texts that are read, the tables with or without a schema are those with at most one
point.  A text of nothing but blanks is the only one of which it is reported that the name is
missing. -/
theorem readTableName_grammar (text : String) :
    (∀ name, readTableName text = .ok name ↔ name = trim text ∧ ∃ parts, IsPath parts name) ∧
      (IsPlainOrQualified (trim text) ↔
        readTableName text = .ok (trim text) ∧ (trim text).toList.count '.' ≤ 1) ∧
      ((∃ fault, readTableName text = .error fault ∧
        fault.message = "table name must not be empty") ↔ trim text = "") := by
  refine ⟨fun name => ?_, ?_, reported_missing_iff⟩
  · rw [readTableName_eq_ok_iff, ← isTableName_iff, and_comm]
    refine and_congr_right fun same => ?_
    rw [same]
  · rw [isPlainOrQualified_iff, readTableName_eq_ok_iff, and_iff_left rfl]

/-- Three identifiers are read, and they are neither a table nor a table behind its schema. -/
theorem threeParts_are_read :
    readTableName "a.b.c" = .ok "a.b.c" ∧ ¬ IsPlainOrQualified (trim "a.b.c") := by
  refine ⟨by decide, ?_⟩
  rw [isPlainOrQualified_iff]
  decide

end SqlAssembly
