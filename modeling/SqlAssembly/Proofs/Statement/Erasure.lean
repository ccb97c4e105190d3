import SqlAssembly.Proofs.Condition.Erasure
import SqlAssembly.Proofs.Statement.Part

/-!
# Statements and the texts in them

Two runs that differ only in the contents of text values are compared through the run that has
nothing in them.

* `History.erased` — a run with nothing in its text values.
* `History.strings`, `History.texts` — everything that was given as text, and what was given in
  text values.
* `Statement.similar_erased` — a statement is written like the erased one, but for what stands
  between quotes, and but for brackets unless a text value mentions a connective.
* `History.sql_eq_of_erased_eq` — text values change nothing in a statement but what stands
  between its quotes and the brackets of its conditions.
-/

set_option autoImplicit false

namespace SqlAssembly

/-! ## Erasing -/

namespace Arguments

variable {α β : Type}

mutual

/-- The same argument with every item replaced. -/
def map (f : α → β) : Arguments α → Arguments β
  | one item => one (f item)
  | many items => many (items.map f)
  | group parts => group (mapParts f parts)

def mapParts (f : α → β) : List (Arguments α) → List (Arguments β)
  | [] => []
  | part :: parts => map f part :: mapParts f parts

end

mutual

theorem toList_map (f : α → β) : ∀ a : Arguments α, (a.map f).toList = a.toList.map f
  | one _ => by simp [map, toList]
  | many _ => by simp [map, toList]
  | group parts => by simp [map, toList, partsToList_mapParts f parts]

theorem partsToList_mapParts (f : α → β) :
    ∀ parts : List (Arguments α), partsToList (mapParts f parts) = (partsToList parts).map f
  | [] => by simp [mapParts, partsToList]
  | part :: parts => by
    rw [mapParts, partsToList, partsToList, toList_map f part, partsToList_mapParts f parts,
      List.map_append]

end

end Arguments

/-- What is done to a state before a run can be done after it, if that holds of a single step. -/
theorem foldl_map_eq {State Step : Type} {apply : State → Step → State} {f : State → State}
    {g : Step → Step} (one : ∀ s step, apply (f s) (g step) = f (apply s step))
    (steps : List Step) (s : State) :
    (steps.map g).foldl apply (f s) = f (steps.foldl apply s) := by
  rw [List.foldl_map]
  exact List.foldl_hom f one

def Join.erased (j : Join) : Join := { j with conditions := j.conditions.map Condition.erased }

def Assignment.erased (a : Assignment) : Assignment := { a with value := a.value.erased }

namespace Select

def Step.erased : Step → Step
  | join kind table conditions => join kind table (conditions.map Condition.erased)
  | restrict condition => restrict condition.erased
  | other => other

def erased (s : Select) : Select :=
  { s with joins := s.joins.map Join.erased, condition := s.condition.map Condition.erased }

theorem apply_erased (s : Select) (step : Step) :
    s.erased.apply step.erased = (s.apply step).erased := by
  cases step with
  | join kind table conditions =>
    by_cases named : table.isNamed = true <;>
      simp [apply, Step.erased, addJoin, named, erased, Join.erased]
  | sort columns direction =>
    simp only [apply, Step.erased, sort]
    split <;> rfl
  | addColumns | setColumns | source | dataset | restrict => rfl

theorem assemble_erased (steps : List Step) :
    assemble (steps.map Step.erased) = (assemble steps).erased :=
  foldl_map_eq apply_erased steps {}

end Select

namespace Insert

def Step.erased : Step → Step
  | target table => target table
  | row values => row (values.map Value.erased)

def erased (s : Insert) : Insert := { s with rows := s.rows.map (·.map Value.erased) }

theorem apply_erased (s : Insert) (step : Step) :
    s.erased.apply step.erased = (s.apply step).erased := by
  cases step with
  | target table => rfl
  | row values =>
    simp only [apply, Step.erased, addRow, Arguments.push_eq, List.nil_append,
      Arguments.toList_map]
    cases values.toList with
    | nil => rfl
    | cons v rest => simp [erased]

theorem assemble_erased (columns : Arguments String) (steps : List Step) :
    assemble columns (steps.map Step.erased) = (assemble columns steps).erased :=
  foldl_map_eq apply_erased steps (start columns)

end Insert

namespace Assignment

theorem put_erased (new : Assignment) (assignments : List Assignment) :
    put new.erased (assignments.map erased) = (put new assignments).map erased := by
  induction assignments with
  | nil => rfl
  | cons a rest ih =>
    have same : a.erased.column = new.erased.column ↔ a.column = new.column := Iff.rfl
    by_cases h : a.column = new.column
    · rw [List.map_cons, put, put, if_pos (same.2 h), if_pos h, List.map_cons]
    · rw [List.map_cons, put, put, if_neg (same.not.2 h), if_neg h, List.map_cons, ih]

theorem putAll_erased (present news : List Assignment) :
    putAll (present.map erased) (news.map erased) = (putAll present news).map erased :=
  foldl_map_eq (fun assignments new => put_erased new assignments) news present

end Assignment

namespace Update

def Step.erased : Step → Step
  | target table => target table
  | assign column value => assign column value.erased
  | assignAll assignments => assignAll (assignments.map Assignment.erased)
  | restrict condition => restrict condition.erased

def erased (s : Update) : Update :=
  { s with
    assignments := s.assignments.map Assignment.erased
    condition := s.condition.map Condition.erased }

theorem apply_erased (s : Update) (step : Step) :
    s.erased.apply step.erased = (s.apply step).erased := by
  cases step with
  | target table => rfl
  | assign column value =>
    have := Assignment.put_erased ⟨column, value⟩ s.assignments
    simp only [apply, Step.erased, assign, erased, ← this]
    rfl
  | assignAll assignments =>
    have := Assignment.putAll_erased [] assignments
    simp only [apply, Step.erased, assignAll, erased, ← this]
    rfl
  | restrict condition => rfl

theorem assemble_erased (s : Update) (steps : List Step) :
    assemble s.erased (steps.map Step.erased) = (assemble s steps).erased :=
  foldl_map_eq apply_erased steps s

end Update

namespace Delete

def Step.erased : Step → Step
  | restrict condition => restrict condition.erased

def erased (s : Delete) : Delete := { s with condition := s.condition.map Condition.erased }

theorem apply_erased (s : Delete) (step : Step) :
    s.erased.apply step.erased = (s.apply step).erased := by
  cases step
  rfl

theorem assemble_erased (table : Table) (steps : List Step) :
    assemble table (steps.map Step.erased) = (assemble table steps).erased :=
  foldl_map_eq apply_erased steps (start table)

end Delete

/-- A statement with nothing in its text values. -/
def Statement.erased : Statement → Statement
  | select s => select s.erased
  | insert s => insert s.erased
  | update s => update s.erased
  | delete s => delete s.erased
  | truncate s => truncate s

/-- What stands in text values decides about no fault. -/
theorem Statement.faults_erased (s : Statement) : s.erased.faults = s.faults := by
  cases s with
  | insert s =>
    simp [erased, faults, Insert.faults, Insert.erased]
  | update s =>
    simp [erased, faults, Update.faults, Update.erased]
  | select | delete | truncate => rfl

namespace History

/-- The same run with nothing in its text values. -/
def erased : History → History
  | select steps => select (steps.map Select.Step.erased)
  | insert columns steps => insert columns (steps.map Insert.Step.erased)
  | update table steps => update table (steps.map Update.Step.erased)
  | delete table steps => delete table (steps.map Delete.Step.erased)
  | truncate table => truncate table

theorem statement_erased (h : History) : h.erased.statement = h.statement.erased := by
  cases h with
  | select steps => exact congrArg Statement.select (Select.assemble_erased steps)
  | insert columns steps => exact congrArg Statement.insert (Insert.assemble_erased columns steps)
  | update table steps =>
    have start : (table.elim {} Update.start).erased = table.elim {} Update.start := by
      cases table <;> rfl
    have := Update.assemble_erased (table.elim {} Update.start) steps
    rw [start] at this
    exact congrArg Statement.update this
  | delete table steps => exact congrArg Statement.delete (Delete.assemble_erased table steps)
  | truncate table => rfl

end History

/-! ## What was given as text -/

namespace Part

/-- What was given as text with a part. -/
def strings : Part → List String
  | name text => [text]
  | condition c => c.strings
  | value v => v.strings

/-- What stands in the text values of a part. -/
def texts : Part → List String
  | name _ => []
  | condition c => c.texts
  | value v => v.texts

/-- A part without quotes.  Unless brackets do not count, its text values mention no
connective. -/
def Safe (loose : Prop) (p : Part) : Prop :=
  (∀ s ∈ p.strings, '\'' ∉ s.toList) ∧ ∀ s ∈ p.texts, Harmless loose s

variable {loose : Prop}

theorem Safe.quote_not_mem {text : String} (h : (name text).Safe loose) : '\'' ∉ text.toList :=
  h.1 text (List.mem_singleton_self text)

theorem Safe.similar_text {c : Condition} (h : (condition c).Safe loose) :
    Similar loose c.text.toList c.erased.text.toList := Condition.similar_erased h.1 h.2

theorem Safe.similar_literal {v : Value} (h : (value v).Safe loose) :
    Similar loose v.literal.toList v.erased.literal.toList := Value.similar_literal h.1 h.2

end Part

/-! ## Writing -/

/-- Parts of a statement that are pairwise similar. -/
abbrev SimilarParts (loose : Prop) : List String → List String → Prop :=
  List.Forall₂ fun s t => Similar loose s.toList t.toList

section

variable {loose : Prop}

theorem SimilarParts.refl {parts : List String} (h : ∀ s ∈ parts, '\'' ∉ s.toList) :
    SimilarParts loose parts parts :=
  List.forall₂_same.2 fun s hs => Alike.refl_of_not_mem (h s hs)

theorem similar_sentence {parts parts' : List String} (h : SimilarParts loose parts parts') :
    Similar loose (sentence parts).toList (sentence parts').toList :=
  Alike.intercalate (by decide) h

theorem Table.quote_not_mem_sql {t : Table} (h : ∀ p ∈ t.parts, p.Safe loose) :
    '\'' ∉ t.sql.toList := by
  have base := (h (.name t.base) (by simp [parts])).quote_not_mem
  have display := (h (.name t.display) (by simp [parts])).quote_not_mem
  have word : '\'' ∉ " AS ".toList := by decide
  unfold sql
  split
  · exact quote_not_mem_append (quote_not_mem_append base word) display
  · exact base

namespace Target

theorem quote_not_mem_of_mem_alone {t : Target} (h : ∀ p ∈ t.parts, p.Safe loose) :
    ∀ s ∈ t.alone, '\'' ∉ s.toList := by
  obtain ⟨table, refused⟩ := t
  cases table with
  | none => exact fun s hs => by cases hs
  | some table =>
    have := Table.quote_not_mem_sql fun p hp => h p (by simpa [parts] using hp)
    simpa [alone] using this

theorem similar_behind {t : Target} (h : ∀ p ∈ t.parts, p.Safe loose) {word : String}
    (hw : '\'' ∉ word.toList) : SimilarParts loose (t.behind word) (t.behind word) := by
  have alone := quote_not_mem_of_mem_alone h
  refine SimilarParts.refl ?_
  obtain ⟨table, refused⟩ := t
  cases table with
  | none => exact fun s hs => by cases hs
  | some table =>
    have := alone table.sql (by simp [Target.alone])
    simpa [behind] using And.intro hw this

end Target

theorem similar_restriction {condition : Option Condition}
    (h : ∀ c ∈ condition, (Part.condition c).Safe loose) :
    SimilarParts loose (restriction condition)
      (restriction (condition.map Condition.erased)) := by
  cases condition with
  | none => exact List.Forall₂.nil
  | some c =>
    have word : '\'' ∉ "WHERE".toList := by decide
    exact .cons (Alike.refl_of_not_mem word) (.cons (h c rfl).similar_text .nil)

namespace Select

theorem quote_not_mem_columnList {columns : List String}
    (h : ∀ c ∈ columns, '\'' ∉ c.toList) : '\'' ∉ (columnList columns).toList := by
  have star : '\'' ∉ "*".toList := by decide
  unfold columnList
  split
  · exact star
  · exact quote_not_mem_intercalate (by decide) h

theorem quote_not_mem_of_mem_order {sortings : List Sorting}
    (h : ∀ c ∈ sortings.flatMap Sorting.columns, '\'' ∉ c.toList) :
    ∀ s ∈ order sortings, '\'' ∉ s.toList := by
  have one : ∀ s ∈ sortings.map Sorting.sql, '\'' ∉ s.toList := by
    intro sql hs
    obtain ⟨s, found, rfl⟩ := List.mem_map.1 hs
    have columns : '\'' ∉ (", ".intercalate s.columns).toList :=
      quote_not_mem_intercalate (by decide) fun c hc => h c (List.mem_flatMap.2 ⟨s, found, hc⟩)
    have space : '\'' ∉ " ".toList := by decide
    have word : '\'' ∉ s.direction.word.toList := by cases s.direction <;> decide
    exact quote_not_mem_append (quote_not_mem_append columns space) word
  unfold order
  split
  · exact fun s hs => by cases hs
  · have word : '\'' ∉ "ORDER BY".toList := by decide
    have all : '\'' ∉ (", ".intercalate (sortings.map Sorting.sql)).toList :=
      quote_not_mem_intercalate (by decide) one
    simpa using And.intro word all

theorem similar_join {j : Join} (h : ∀ p ∈ j.parts, p.Safe loose) :
    Similar loose j.sql.toList j.erased.sql.toList := by
  have kind : '\'' ∉ j.kind.words.toList := by cases j.kind <;> decide
  have space : '\'' ∉ " ".toList := by decide
  have table := Table.quote_not_mem_sql fun p hp => h p (List.mem_append_left _ hp)
  have conditions : Similar loose (Join.on j.conditions).toList
      (Join.on (j.conditions.map Condition.erased)).toList := by
    unfold Join.on
    rw [List.isEmpty_map]
    split
    · exact Alike.nil
    · have word : '\'' ∉ " ON ".toList := by decide
      rw [List.map_map]
      refine (Alike.intercalate_map (by decide) ?_).behind word
      intro c hc
      exact (h (.condition c) (List.mem_append_right _ (List.mem_map_of_mem hc))).similar_text
  exact conditions.behind (quote_not_mem_append (quote_not_mem_append kind space) table)

theorem similar_erased {s : Select} (h : ∀ p ∈ s.parts, p.Safe loose) :
    Similar loose s.body.toList s.erased.body.toList := by
  simp only [parts, List.mem_append] at h
  have word : '\'' ∉ "SELECT".toList := by decide
  have columns : '\'' ∉ (columnList s.columns).toList := quote_not_mem_columnList fun c hc =>
    (h (.name c) (by simp [hc])).quote_not_mem
  have start : SimilarParts loose ["SELECT", columnList s.columns]
      ["SELECT", columnList s.columns] :=
    SimilarParts.refl (by simpa using And.intro word columns)
  have source : SimilarParts loose (s.target.behind "FROM") (s.target.behind "FROM") :=
    Target.similar_behind (fun p hp => h p (by simp [hp])) (by decide)
  have joins : SimilarParts loose (s.joins.map Join.sql)
      ((s.joins.map Join.erased).map Join.sql) := by
    rw [List.map_map, SimilarParts, List.forall₂_map_left_iff, List.forall₂_map_right_iff,
      List.forall₂_same]
    intro j hj
    refine similar_join fun p hp => h p ?_
    exact Or.inl (Or.inl (Or.inr (List.mem_flatMap.2 ⟨j, hj, hp⟩)))
  have restricted : SimilarParts loose (restriction s.condition)
      (restriction (s.condition.map Condition.erased)) :=
    similar_restriction fun c hc => h (.condition c) (by simp [Option.mem_def.1 hc])
  have ordered : SimilarParts loose (order s.sortings) (order s.sortings) :=
    SimilarParts.refl (quote_not_mem_of_mem_order fun c hc =>
      (h (.name c) (Or.inr (List.mem_map_of_mem hc))).quote_not_mem)
  have all := List.rel_append (List.rel_append start source) joins
  exact similar_sentence (List.rel_append (List.rel_append all restricted) ordered)

end Select

namespace Insert

theorem similar_tuple {α : Type} {f g : α → String} {items : List α}
    (h : ∀ x ∈ items, Similar loose (f x).toList (g x).toList) :
    Similar loose (tuple (items.map f)).toList (tuple (items.map g)).toList := by
  have opening : '\'' ∉ "( ".toList := by decide
  have closing : '\'' ∉ " )".toList := by decide
  exact ((Alike.intercalate_map (by decide) h).behind opening).before closing

theorem similar_erased {s : Insert} (h : ∀ p ∈ s.parts, p.Safe loose) :
    Similar loose s.body.toList s.erased.body.toList := by
  simp only [parts, List.mem_append] at h
  have start : SimilarParts loose ["INSERT"] ["INSERT"] := SimilarParts.refl (by decide)
  have target : SimilarParts loose (s.target.behind "INTO") (s.target.behind "INTO") :=
    Target.similar_behind (fun p hp => h p (by simp [hp])) (by decide)
  have columns : SimilarParts loose (columnPart s.columns) (columnPart s.columns) := by
    unfold columnPart
    split
    · exact .nil
    · refine .cons ?_ .nil
      have columns : ∀ c ∈ s.columns, '\'' ∉ c.toList := fun c hc =>
        (h (.name c) (by simp [hc])).quote_not_mem
      have : Similar loose (tuple (s.columns.map id)).toList (tuple (s.columns.map id)).toList :=
        similar_tuple fun c hc => Alike.refl_of_not_mem (columns c hc)
      rwa [List.map_id] at this
  have rows : SimilarParts loose (rowPart s.rows) (rowPart s.erased.rows) := by
    unfold rowPart
    simp only [erased, List.isEmpty_map]
    split
    · exact .nil
    · have word : '\'' ∉ "VALUES".toList := by decide
      refine .cons (Alike.refl_of_not_mem word) (.cons ?_ .nil)
      rw [List.map_map]
      refine Alike.intercalate_map (by decide) ?_
      intro row hr
      rw [Function.comp, List.map_map]
      refine similar_tuple fun v hv => (h (.value v) ?_).similar_literal
      exact Or.inr (List.mem_map_of_mem (List.mem_flatten.2 ⟨row, hr, hv⟩))
  exact similar_sentence
    (List.rel_append (List.rel_append (List.rel_append start target) columns) rows)

end Insert

namespace Update

theorem similar_assignment {a : Assignment} (h : ∀ p ∈ a.parts, p.Safe loose) :
    Similar loose a.sql.toList a.erased.sql.toList := by
  have column := (h (.name a.column) (by simp [Assignment.parts])).quote_not_mem
  have sign : '\'' ∉ " = ".toList := by decide
  have value := (h (.value a.value) (by simp [Assignment.parts])).similar_literal
  exact value.behind (quote_not_mem_append column sign)

theorem similar_erased {s : Update} (h : ∀ p ∈ s.parts, p.Safe loose) :
    Similar loose s.body.toList s.erased.body.toList := by
  simp only [parts, List.mem_append] at h
  have start : SimilarParts loose ["UPDATE"] ["UPDATE"] := SimilarParts.refl (by decide)
  have target : SimilarParts loose s.target.alone s.target.alone :=
    SimilarParts.refl (Target.quote_not_mem_of_mem_alone fun p hp => h p (by simp [hp]))
  have assignments : Similar loose (", ".intercalate (s.assignments.map Assignment.sql)).toList
      (", ".intercalate ((s.assignments.map Assignment.erased).map Assignment.sql)).toList := by
    rw [List.map_map]
    refine Alike.intercalate_map (by decide) ?_
    intro a ha
    refine similar_assignment fun p hp => h p ?_
    exact Or.inl (Or.inr (List.mem_flatMap.2 ⟨a, ha, hp⟩))
  have word : '\'' ∉ "SET".toList := by decide
  have assigned : SimilarParts loose ["SET", ", ".intercalate (s.assignments.map Assignment.sql)]
      ["SET", ", ".intercalate ((s.assignments.map Assignment.erased).map Assignment.sql)] :=
    .cons (Alike.refl_of_not_mem word) (.cons assignments .nil)
  have restricted : SimilarParts loose (restriction s.condition)
      (restriction (s.condition.map Condition.erased)) :=
    similar_restriction fun c hc => h (.condition c) (by simp [Option.mem_def.1 hc])
  exact similar_sentence
    (List.rel_append (List.rel_append (List.rel_append start target) assigned) restricted)

end Update

theorem Delete.similar_erased {s : Delete} (h : ∀ p ∈ s.parts, p.Safe loose) :
    Similar loose s.body.toList s.erased.body.toList := by
  simp only [parts, List.mem_append] at h
  have start : SimilarParts loose ["DELETE FROM"] ["DELETE FROM"] := SimilarParts.refl (by decide)
  have target : SimilarParts loose s.target.alone s.target.alone :=
    SimilarParts.refl (Target.quote_not_mem_of_mem_alone fun p hp => h p (by simp [hp]))
  have restricted : SimilarParts loose (restriction s.condition)
      (restriction (s.condition.map Condition.erased)) :=
    similar_restriction fun c hc => h (.condition c) (by simp [Option.mem_def.1 hc])
  exact similar_sentence (List.rel_append (List.rel_append start target) restricted)

theorem Truncate.similar_body {s : Truncate} (h : ∀ p ∈ s.parts, p.Safe loose) :
    Similar loose s.body.toList s.body.toList := by
  have start : SimilarParts loose ["TRUNCATE TABLE"] ["TRUNCATE TABLE"] :=
    SimilarParts.refl (by decide)
  have target : SimilarParts loose s.target.alone s.target.alone :=
    SimilarParts.refl (Target.quote_not_mem_of_mem_alone h)
  exact similar_sentence (List.rel_append start target)

/-- A statement is written like the one with nothing in its text values. -/
theorem Statement.similar_erased {s : Statement} (h : ∀ p ∈ s.parts, p.Safe loose) :
    Similar loose s.body.toList s.erased.body.toList := by
  cases s with
  | select s => exact Select.similar_erased h
  | insert s => exact Insert.similar_erased h
  | update s => exact Update.similar_erased h
  | delete s => exact Delete.similar_erased h
  | truncate s => exact Truncate.similar_body h

end

/-! ## Two runs -/

namespace History

/-- Everything that was given as text: names, raw fragments and text values. -/
def strings (h : History) : List String := h.parts.flatMap Part.strings

/-- What was given in text values. -/
def texts (h : History) : List String := h.parts.flatMap Part.texts

theorem similar_erased {loose : Prop} {h : History} (hs : ∀ s ∈ h.strings, '\'' ∉ s.toList)
    (ht : ∀ s ∈ h.texts, Harmless loose s) :
    Similar loose (h.statement.body ++ ";").toList (h.erased.statement.body ++ ";").toList := by
  rw [statement_erased]
  refine (Statement.similar_erased ?_).before (by decide)
  intro p hp
  have given := mem_parts_of_statement hp
  exact ⟨fun s found => hs s (List.mem_flatMap.2 ⟨p, given, found⟩),
    fun s found => ht s (List.mem_flatMap.2 ⟨p, given, found⟩)⟩

/-- **Text values cannot change the statement around them.**  Two runs that differ only in the
contents of text values, with no quote in anything that was given as text, fail alike or write the
same outside of quotes, up to brackets; and the same to the last bracket when no text value
mentions a connective. -/
theorem sql_eq_of_erased_eq (h h' : History) (same : h.erased = h'.erased)
    (quoteless : ∀ s ∈ h.strings ++ h'.strings, '\'' ∉ s.toList) :
    (∃ fault, h.statement.sql = .error fault ∧ h'.statement.sql = .error fault) ∨
    ∃ sql sql', h.statement.sql = .ok sql ∧ h'.statement.sql = .ok sql' ∧
      unbracketed sql.toList = unbracketed sql'.toList ∧
      ((∀ s ∈ h.texts ++ h'.texts, ∀ connective : Connective,
          mentions connective.word s = false) →
        masked sql.toList = masked sql'.toList) := by
  have faults : h.statement.faults = h'.statement.faults := by
    rw [← Statement.faults_erased, ← statement_erased, same, statement_erased,
      Statement.faults_erased]
  have hs : ∀ s ∈ h.strings, '\'' ∉ s.toList := fun s found =>
    quoteless s (List.mem_append_left _ found)
  have hs' : ∀ s ∈ h'.strings, '\'' ∉ s.toList := fun s found =>
    quoteless s (List.mem_append_right _ found)
  have text := Statement.sql_eq_ok_iff h.statement (h.statement.body ++ ";")
  have text' := Statement.sql_eq_ok_iff h'.statement (h'.statement.body ++ ";")
  by_cases faultless : h.statement.faults = []
  · refine Or.inr ⟨_, _, text.2 ⟨faultless, rfl⟩, text'.2 ⟨faults ▸ faultless, rfl⟩, ?_, ?_⟩
    · have first : Similar True _ _ := similar_erased hs fun _ _ => Or.inl trivial
      have second : Similar True _ _ := similar_erased hs' fun _ _ => Or.inl trivial
      rw [first.unbracketed_eq, second.unbracketed_eq, same]
    · intro ht
      have first : Similar False _ _ := similar_erased hs fun s found =>
        Or.inr (ht s (List.mem_append_left _ found))
      have second : Similar False _ _ := similar_erased hs' fun s found =>
        Or.inr (ht s (List.mem_append_right _ found))
      rw [first.masked_eq, second.masked_eq, same]
  · left
    rw [Statement.sql, Statement.sql, ← faults, conclude, conclude]
    cases hc : Fault.combine h.statement.faults with
    | none => exact absurd ((Fault.combine_eq_none_iff _).1 hc) faultless
    | some fault => exact ⟨fault, rfl, rfl⟩

/-- A run with text values in an assignment, a pattern and a list. -/
def relabelling (name start : String) : History :=
  .update (some (.named "fruit"))
    [.assign "name" (.text name), .assign "stock" (.int 3),
      .restrict ((Condition.leaf (.compare "id" .equal (.int 7))).and
        ((Condition.leaf (.holds "name" false .start (.text start))).and
          (Condition.leaf (.oneOf "kind" true [.text start, .int 2]))))]

/-- A connective inside a text value costs brackets, a comma or a bracket inside of one costs
nothing. -/
theorem sql_eq_of_erased_eq_relabelling :
    ((relabelling "lemon" "PL").erased = (relabelling "a, (b" "OR").erased ∧
      (∀ s ∈ (relabelling "lemon" "PL").strings ++ (relabelling "a, (b" "OR").strings,
        '\'' ∉ s.toList) ∧
      ∃ sql sql', (relabelling "lemon" "PL").statement.sql = .ok sql ∧
        (relabelling "a, (b" "OR").statement.sql = .ok sql' ∧
        unbracketed sql.toList = unbracketed sql'.toList ∧
        masked sql.toList ≠ masked sql'.toList) ∧
    (relabelling "lemon" "PL").erased = (relabelling "a, (b" "QU").erased ∧
      (∀ s ∈ (relabelling "lemon" "PL").strings ++ (relabelling "a, (b" "QU").strings,
        '\'' ∉ s.toList) ∧
      (∀ s ∈ (relabelling "lemon" "PL").texts ++ (relabelling "a, (b" "QU").texts,
        ∀ connective : Connective, mentions connective.word s = false) ∧
      ∃ sql sql', (relabelling "lemon" "PL").statement.sql = .ok sql ∧
        (relabelling "a, (b" "QU").statement.sql = .ok sql' ∧
        masked sql.toList = masked sql'.toList := by
  have plain : (relabelling "lemon" "PL").statement.sql =
      .ok ("UPDATE fruit SET name = 'lemon', stock = 3 WHERE id = 7" ++
        " AND name LIKE 'PL%' AND kind NOT IN ('PL', '2');") := rfl
  have bracketed : (relabelling "a, (b" "OR").statement.sql =
      .ok ("UPDATE fruit SET name = 'a, (b', stock = 3 WHERE id = 7" ++
        " AND (name LIKE 'OR%' AND (kind NOT IN ('OR', '2')));") := rfl
  have silent : ∀ s ∈ (relabelling "lemon" "PL").texts ++ (relabelling "a, (b" "QU").texts,
      ∀ connective : Connective, mentions connective.word s = false := by
    intro s hs connective
    cases connective <;> revert s <;> decide
  refine ⟨⟨rfl, by decide, ?_⟩, rfl, by decide, silent, ?_⟩
  · have two := sql_eq_of_erased_eq (relabelling "lemon" "PL") (relabelling "a, (b" "OR") rfl
      (by decide)
    rcases two with ⟨fault, failed, -⟩ | ⟨sql, sql', ok, ok', same, -⟩
    · cases plain.symm.trans failed
    · refine ⟨sql, sql', ok, ok', same, ?_⟩
      cases plain.symm.trans ok
      cases bracketed.symm.trans ok'
      decide
  · have two := sql_eq_of_erased_eq (relabelling "lemon" "PL") (relabelling "a, (b" "QU") rfl
      (by decide)
    rcases two with ⟨fault, failed, -⟩ | ⟨sql, sql', ok, ok', -, same⟩
    · cases plain.symm.trans failed
    · exact ⟨sql, sql', ok, ok', same silent⟩

end History

end SqlAssembly
