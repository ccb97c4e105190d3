import SqlAssembly.Proofs.Statement.FaultHistory

/-!
# What a statement is made of

Whatever stands in a statement was brought by the way it started or by one of its steps.

* `Part` — a name, a condition or a value that is given to a statement.
* `History.parts`, `Statement.parts` — the parts that were given, and those that are kept.
* `History.mem_parts_of_statement` — every part that is kept was given.
-/

set_option autoImplicit false

namespace SqlAssembly

/-- What can be given to a statement. -/
inductive Part where
  /-- The name of a table or of a column, or another name that a table is shown under. -/
  | name (text : String)
  | condition (condition : Condition)
  | value (value : Value)
  deriving DecidableEq, Repr

def Table.parts (t : Table) : List Part := [.name t.base, .name t.display]

def Target.parts (t : Target) : List Part := t.table.toList.flatMap Table.parts

def Join.parts (j : Join) : List Part := j.table.parts ++ j.conditions.map .condition

def Assignment.parts (a : Assignment) : List Part := [.name a.column, .value a.value]

theorem Target.mem_parts_set {t : Target} {table : Table} {p : Part}
    (h : p ∈ (t.set table).parts) : p ∈ table.parts := by
  unfold parts at h
  rw [table_set] at h
  split at h
  · simpa using h
  · cases h

/-- A part of what a run leaves was there at first or came with a step, if that holds of every
single step. -/
theorem mem_parts_foldl {State Step : Type} {apply : State → Step → State}
    {parts : State → List Part} {brought : Step → List Part}
    (one : ∀ s step, ∀ p ∈ parts (apply s step), p ∈ parts s ∨ p ∈ brought step)
    (steps : List Step) (s : State) {p : Part} (h : p ∈ parts (steps.foldl apply s)) :
    p ∈ parts s ∨ p ∈ steps.flatMap brought := by
  induction steps generalizing s with
  | nil => exact Or.inl h
  | cons step steps ih =>
    rw [List.flatMap_cons, List.mem_append]
    rcases ih (apply s step) h with now | later
    · exact (one s step p now).imp_right Or.inl
    · exact Or.inr (Or.inr later)

/-! ## SELECT -/

namespace Select

def Step.parts : Step → List Part
  | addColumns columns => columns.toList.map .name
  | setColumns columns => columns.toList.map .name
  | source table => table.parts
  | dataset d => d.source.parts ++ d.columns.map .name
  | join kind table conditions => Join.parts ⟨kind, table, conditions⟩
  | restrict condition => [.condition condition]
  | sort columns _ => columns.toList.map .name

def parts (s : Select) : List Part :=
  s.columns.map .name ++ s.target.parts ++ s.joins.flatMap Join.parts ++
    s.condition.toList.map .condition ++ (s.sortings.flatMap Sorting.columns).map .name

theorem mem_parts_apply (s : Select) (step : Step) :
    ∀ p ∈ (s.apply step).parts, p ∈ s.parts ∨ p ∈ step.parts := by
  intro p h
  simp only [parts, List.mem_append] at h ⊢
  cases step with
  | addColumns columns =>
    simp only [apply, columns_addColumns, List.map_append, List.mem_append] at h
    simp only [addColumns] at h
    simp only [Step.parts]
    tauto
  | setColumns columns =>
    simp only [apply, columns_setColumns] at h
    simp only [setColumns] at h
    simp only [Step.parts]
    tauto
  | source table =>
    simp only [apply, setSource] at h
    have := @Target.mem_parts_set s.target table p
    simp only [Step.parts]
    tauto
  | dataset d =>
    simp only [apply, setDataset] at h
    have := @Target.mem_parts_set s.target d.source p
    simp only [Step.parts, List.mem_append]
    tauto
  | join kind table conditions =>
    simp only [apply, addJoin] at h
    simp only [Step.parts]
    split at h
    · simp only [List.flatMap_append, List.flatMap_singleton, List.mem_append] at h
      tauto
    · exact Or.inl h
  | restrict condition =>
    simp only [apply, Select.restrict, Option.toList_some, List.map_singleton] at h
    simp only [Step.parts]
    tauto
  | sort columns direction =>
    simp only [apply, sort, Arguments.push_eq, List.nil_append] at h
    simp only [Step.parts]
    split at h
    · exact Or.inl h
    · simp only [List.flatMap_append, List.flatMap_singleton, List.map_append,
        List.mem_append] at h
      tauto

end Select

/-! ## INSERT -/

namespace Insert

def Step.parts : Step → List Part
  | target table => table.parts
  | row values => values.toList.map .value

def parts (s : Insert) : List Part :=
  s.columns.map .name ++ s.target.parts ++ s.rows.flatten.map .value

theorem mem_parts_apply (s : Insert) (step : Step) :
    ∀ p ∈ (s.apply step).parts, p ∈ s.parts ∨ p ∈ step.parts := by
  intro p h
  simp only [parts, List.mem_append] at h ⊢
  cases step with
  | target table =>
    simp only [apply, setTarget] at h
    have := @Target.mem_parts_set s.target table p
    simp only [Step.parts]
    tauto
  | row values =>
    simp only [apply, addRow, Arguments.push_eq, List.nil_append] at h
    simp only [Step.parts]
    split at h
    · exact Or.inl h
    · simp only [List.flatten_append, List.flatten_singleton, List.map_append,
        List.mem_append] at h
      tauto

end Insert

/-! ## UPDATE -/

namespace Assignment

theorem mem_parts_put (assignments : List Assignment) (new : Assignment) :
    ∀ p ∈ (put new assignments).flatMap parts, p ∈ assignments.flatMap parts ∨ p ∈ new.parts := by
  induction assignments with
  | nil => exact fun p h => Or.inr (by simpa [put] using h)
  | cons a rest ih =>
    intro p h
    have := ih p
    unfold put at h
    split at h <;> simp only [List.flatMap_cons, List.mem_append] at h ⊢ <;> tauto

theorem mem_parts_putAll {present news : List Assignment} {p : Part}
    (h : p ∈ (putAll present news).flatMap parts) :
    p ∈ present.flatMap parts ∨ p ∈ news.flatMap parts :=
  @mem_parts_foldl _ _ (fun assignments new => put new assignments) (List.flatMap parts) parts
    mem_parts_put news present p h

end Assignment

namespace Update

def Step.parts : Step → List Part
  | target table => table.parts
  | assign column value => Assignment.parts ⟨column, value⟩
  | assignAll assignments => assignments.flatMap Assignment.parts
  | restrict condition => [.condition condition]

def parts (s : Update) : List Part :=
  s.target.parts ++ s.assignments.flatMap Assignment.parts ++ s.condition.toList.map .condition

theorem mem_parts_apply (s : Update) (step : Step) :
    ∀ p ∈ (s.apply step).parts, p ∈ s.parts ∨ p ∈ step.parts := by
  intro p h
  simp only [parts, List.mem_append] at h ⊢
  cases step with
  | target table =>
    simp only [apply, setTarget] at h
    have := @Target.mem_parts_set s.target table p
    simp only [Step.parts]
    tauto
  | assign column value =>
    simp only [apply, assign] at h
    have := Assignment.mem_parts_put s.assignments ⟨column, value⟩ p
    simp only [Step.parts]
    tauto
  | assignAll assignments =>
    simp only [apply, assignAll] at h
    have := @Assignment.mem_parts_putAll [] assignments p
    simp only [List.flatMap_nil, List.not_mem_nil, false_or] at this
    simp only [Step.parts]
    tauto
  | restrict condition =>
    simp only [apply, Update.restrict, Option.toList_some, List.map_singleton] at h
    simp only [Step.parts]
    tauto

end Update

/-! ## DELETE and TRUNCATE -/

namespace Delete

def Step.parts : Step → List Part
  | restrict condition => [.condition condition]

def parts (s : Delete) : List Part := s.target.parts ++ s.condition.toList.map .condition

theorem mem_parts_apply (s : Delete) (step : Step) :
    ∀ p ∈ (s.apply step).parts, p ∈ s.parts ∨ p ∈ step.parts := by
  intro p h
  simp only [parts, List.mem_append] at h ⊢
  cases step with
  | restrict condition =>
    simp only [apply, Delete.restrict, Option.toList_some, List.map_singleton] at h
    simp only [Step.parts]
    tauto

end Delete

def Truncate.parts (s : Truncate) : List Part := s.target.parts

/-! ## Any statement -/

def Statement.parts : Statement → List Part
  | select s => s.parts
  | insert s => s.parts
  | update s => s.parts
  | delete s => s.parts
  | truncate s => s.parts

namespace History

/-- Every part that was given, also to steps that a later one undid. -/
def parts : History → List Part
  | select steps => steps.flatMap Select.Step.parts
  | insert columns steps => columns.toList.map .name ++ steps.flatMap Insert.Step.parts
  | update table steps => table.toList.flatMap Table.parts ++ steps.flatMap Update.Step.parts
  | delete table steps => table.parts ++ steps.flatMap Delete.Step.parts
  | truncate table => table.parts

/-- Nothing stands in a statement that was not given to it. -/
theorem mem_parts_of_statement {h : History} {p : Part} (hp : p ∈ h.statement.parts) :
    p ∈ h.parts := by
  cases h with
  | select steps =>
    rcases mem_parts_foldl Select.mem_parts_apply steps {} hp with start | given
    · cases start
    · exact given
  | insert columns steps =>
    rcases mem_parts_foldl Insert.mem_parts_apply steps (Insert.start columns) hp with start | given
    · refine List.mem_append_left _ ?_
      simpa [Insert.parts, Insert.start, Arguments.push_eq, Target.parts] using start
    · exact List.mem_append_right _ given
  | update table steps =>
    have opened : ∀ p ∈ (table.elim {} Update.start).parts,
        p ∈ table.toList.flatMap Table.parts := by
      intro p start
      cases table with
      | none => cases start
      | some table =>
        have : p ∈ (({} : Target).set table).parts := by
          simpa [Update.parts, Update.start, Update.setTarget] using start
        simpa using Target.mem_parts_set this
    rcases mem_parts_foldl Update.mem_parts_apply steps _ hp with start | given
    · exact List.mem_append_left _ (opened p start)
    · exact List.mem_append_right _ given
  | delete table steps =>
    rcases mem_parts_foldl Delete.mem_parts_apply steps _ hp with start | given
    · refine List.mem_append_left _ ?_
      have : p ∈ (({} : Target).set table).parts := by
        simpa [Delete.parts, Delete.start] using start
      exact Target.mem_parts_set this
    · exact List.mem_append_right _ given
  | truncate table => exact Target.mem_parts_set hp

end History

end SqlAssembly
