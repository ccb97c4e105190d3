import SqlAssembly.Proofs.Statement.JoinReading
import SqlAssembly.Proofs.Statement.Names

/-!
# Reading a SELECT

The text of a SELECT says all there is to say about it, as long as its names are plain and no
condition has a word in it that opens a clause.

* `Select.Content` — what a SELECT says.
* `Select.keywords`, `Select.openings` — the words of its clauses, and those of them that a
  clause behind the table starts with.
* `Select.body_eq_sentence` — a SELECT as a row of words, clause by clause.
* `Select.readSelect` — reads them again: the columns up to FROM, the table up to the first clause,
  and the clauses one by one.
* `Select.readSelect_sql` — this gives back what was written.
-/

set_option autoImplicit false

namespace SqlAssembly

/-! ## What a SELECT says -/

/-- What a joined table says. -/
structure Join.Content where
  kind : Join.Kind
  table : Table
  /-- The text behind ON. -/
  on : Option String
  deriving DecidableEq, Repr

def Join.content (j : Join) : Join.Content :=
  ⟨j.kind, j.table, if j.conditions = [] then none else some (conjunction j.conditions)⟩

/-- What a SELECT says. -/
structure Select.Content where
  columns : List String
  table : Option Table
  joins : List Join.Content
  condition : Option String
  sortings : List Sorting
  deriving DecidableEq, Repr

def Select.content (s : Select) : Select.Content :=
  { columns := s.columns
    table := s.target.table
    joins := s.joins.map Join.content
    condition := s.condition.map Condition.text
    sortings := s.sortings }

namespace Select

/-- The words that a clause behind the table starts with. -/
def openings : List String := ["WHERE", "ORDER", "INNER", "LEFT", "RIGHT", "FULL", "CROSS"]

/-- The words of the clauses. -/
def keywords : List String :=
  openings ++ ["SELECT", "FROM", "AS", "ON", "BY", "ASC", "DESC", "JOIN"]

/-- The words inside of a clause. -/
def IsInner (w : String) : Prop := ' ' ∉ w.toList ∧ w ∉ openings

instance : DecidablePred IsInner := fun _ => inferInstanceAs (Decidable (_ ∧ _))

theorem IsInner.comma {w : String} (h : IsInner w) : IsInner (w ++ ",") := by
  have mark : ",".toList = [','] := by decide
  constructor
  · rw [String.toList_append, List.mem_append, not_or, mark]
    exact ⟨h.1, by decide⟩
  · intro found
    have without : ∀ opening ∈ openings, endsInComma opening = false := by decide
    exact append_comma_ne (without _ found) w rfl

/-- A clause behind the table: the word that opens it and words inside of it. -/
def IsClause : List String → Prop
  | [] => False
  | w :: ws => w ∈ openings ∧ ∀ u ∈ ws, IsInner u

theorem IsClause.space_not_mem {ws : List String} (h : IsClause ws) : ∀ w ∈ ws, ' ' ∉ w.toList := by
  cases ws with
  | nil => exact h.elim
  | cons w ws =>
    have spaceless : ∀ opening ∈ openings, ' ' ∉ opening.toList := by decide
    rw [List.forall_mem_cons]
    exact ⟨spaceless w h.1, fun u hu => (h.2 u hu).1⟩

end Select

/-! ## Clauses as words -/

namespace Part

variable {text : String}

theorem IsPlain.isInner (h : (Part.name text).IsPlain Select.keywords Select.openings) :
    Select.IsInner text :=
  ⟨h.1.space_not_mem, fun found => h.2 (List.mem_append_left _ found)⟩

theorem IsPlain.not_endsInComma {reserved openings : List String}
    (h : (Part.name text).IsPlain reserved openings) : endsInComma text = false :=
  h.1.isAtom.not_endsInComma

end Part

namespace Select

/-- The columns of a SELECT as words. -/
def columnWords (columns : List String) : List String :=
  if columns = [] then ["*"] else enumeration columns

end Select

/-- The word in front of JOIN. -/
def Join.Kind.opening : Join.Kind → String
  | inner => "INNER"
  | left => "LEFT"
  | right => "RIGHT"
  | full => "FULL"
  | cross => "CROSS"

/-- The ON part as words. -/
def Join.onWords (conditions : List Condition) : List String :=
  if conditions = [] then [] else "ON" :: wordsOf (conjunction conditions)

def Join.words (j : Join) : List String :=
  j.kind.opening :: "JOIN" :: (j.table.words ++ onWords j.conditions)

def Sorting.words (s : Sorting) : List String :=
  enumeration s.columns ++ [s.direction.word]

namespace Select

/-- The two parts of the ORDER BY part as rows of words. -/
def orderRows (sortings : List Sorting) : List (List String) :=
  if sortings = [] then [] else [["ORDER", "BY"], series (sortings.map Sorting.words)]

/-- The clauses behind the table as words. -/
def clauses (s : Select) : List (List String) :=
  s.joins.map Join.words ++ (s.condition.toList.map fun c => "WHERE" :: wordsOf c.text) ++
    if s.sortings = [] then [] else ["ORDER" :: "BY" :: series (s.sortings.map Sorting.words)]

theorem columnList_eq_sentence (columns : List String) :
    columnList columns = sentence (columnWords columns) := by
  cases columns with
  | nil => rfl
  | cons c columns =>
    rw [columnWords, if_neg (List.cons_ne_nil _ _), ← intercalate_eq_sentence]
    rfl

end Select

theorem Join.sql_eq_sentence (j : Join) : j.sql = sentence j.words := by
  have kind : j.kind.words = j.kind.opening ++ " " ++ "JOIN" := by cases j.kind <;> decide
  have nonempty : j.table.words ++ onWords j.conditions ≠ [] := by simp [Table.words_ne_nil]
  rw [words, sentence_cons_of_ne_nil (List.cons_ne_nil _ _), sentence_cons_of_ne_nil nonempty]
  by_cases unconditional : j.conditions = []
  · rw [sql, unconditional, on_nil, onWords, if_pos rfl, List.append_nil, kind,
      j.table.sql_eq_sentence]
    simp only [String.append_assoc, String.append_empty]
  · have space : " ON " = " " ++ "ON" ++ " " := by decide
    rw [sql_of_ne_nil unconditional, onWords, if_neg unconditional,
      sentence_append Table.words_ne_nil (List.cons_ne_nil _ _),
      sentence_cons_of_ne_nil (wordsOf_ne_nil _), sentence_wordsOf, kind, j.table.sql_eq_sentence,
      space]
    simp only [String.append_assoc]

theorem Sorting.sql_eq_sentence {s : Sorting} (h : s.columns ≠ []) : s.sql = sentence s.words := by
  rw [sql, words, sentence_append (enumeration_ne_nil h) (List.cons_ne_nil _ _),
    sentence_singleton, intercalate_eq_sentence]

namespace Select

theorem order_eq {sortings : List Sorting} (h : ∀ s ∈ sortings, s.columns ≠ []) :
    order sortings = (orderRows sortings).map sentence := by
  cases sortings with
  | nil => rfl
  | cons s sortings =>
    have words : (s :: sortings).map Sorting.sql =
        ((s :: sortings).map Sorting.words).map sentence := by
      rw [List.map_map]
      exact List.map_congr_left fun s hs => Sorting.sql_eq_sentence (h s hs)
    have rows : ∀ ws ∈ (s :: sortings).map Sorting.words, ws ≠ [] := by
      intro ws hw
      obtain ⟨s, -, rfl⟩ := List.mem_map.1 hw
      simp [Sorting.words]
    have start : "ORDER BY" = sentence ["ORDER", "BY"] := by decide
    rw [orderRows, if_neg (List.cons_ne_nil _ _), List.map_cons, List.map_singleton,
      ← intercalate_sentence rows, ← words, ← start]
    rfl

theorem columnWords_ne_nil (columns : List String) : columnWords columns ≠ [] := by
  unfold columnWords
  split
  · exact List.cons_ne_nil _ _
  · rename_i nonempty
    exact enumeration_ne_nil nonempty

/-- The parts of a SELECT from a table as rows of words. -/
def rows (s : Select) (table : Table) : List (List String) :=
  [["SELECT"], columnWords s.columns, ["FROM"], table.words] ++ s.joins.map Join.words ++
    restrictionRows wordsOf s.condition ++ orderRows s.sortings

variable {s : Select} {table : Table}

theorem ne_nil_of_mem_rows : ∀ ws ∈ s.rows table, ws ≠ [] := by
  have joins : ∀ ws ∈ s.joins.map Join.words, ws ≠ [] := by simp [Join.words]
  have restricted : ∀ ws ∈ restrictionRows wordsOf s.condition, ws ≠ [] :=
    ne_nil_of_mem_restrictionRows wordsOf_ne_nil
  have ordered : ∀ ws ∈ orderRows s.sortings, ws ≠ [] := by
    unfold orderRows
    split
    · simp
    · rename_i nonempty
      have : series (s.sortings.map Sorting.words) ≠ [] :=
        series_ne_nil (by simpa using nonempty) (by simp [Sorting.words])
      simp [this]
  simp only [rows, List.forall_mem_append]
  exact ⟨⟨⟨by simp [columnWords_ne_nil, Table.words_ne_nil], joins⟩, restricted⟩, ordered⟩

theorem flatten_rows :
    (s.rows table).flatten =
      "SELECT" :: (columnWords s.columns ++ "FROM" :: (table.words ++ s.clauses.flatten)) := by
  have restricted : (restrictionRows wordsOf s.condition).flatten =
      (s.condition.toList.map fun c => "WHERE" :: wordsOf c.text).flatten := by
    cases s.condition <;> rfl
  have ordered : (orderRows s.sortings).flatten =
      (if s.sortings = [] then []
        else ["ORDER" :: "BY" :: series (s.sortings.map Sorting.words)]).flatten := by
    unfold orderRows
    split <;> rfl
  simp only [rows, clauses, List.flatten_append, restricted, ordered, List.flatten_cons,
    List.append_assoc, List.cons_append, List.nil_append]

/-- A SELECT as a row of words. -/
theorem body_eq_sentence (source : s.target.table = some table)
    (sorted : ∀ x ∈ s.sortings, x.columns ≠ []) :
    s.body = sentence ("SELECT" ::
      (columnWords s.columns ++ "FROM" :: (table.words ++ s.clauses.flatten))) := by
  have joins : s.joins.map Join.sql = (s.joins.map Join.words).map sentence := by
    rw [List.map_map]
    exact List.map_congr_left fun j _ => j.sql_eq_sentence
  have parts : ["SELECT", columnList s.columns] ++ s.target.behind "FROM" ++
      s.joins.map Join.sql ++ restriction s.condition ++ order s.sortings =
        (s.rows table).map sentence := by
    rw [joins, restriction_eq s.condition sentence_wordsOf, order_eq sorted, Target.behind, source,
      columnList_eq_sentence, rows, List.map_append, List.map_append, List.map_append]
    simp only [List.map_cons, List.map_nil, sentence_singleton, Table.sql_eq_sentence,
      List.cons_append, List.nil_append]
  rw [body, parts, sentence_map_sentence ne_nil_of_mem_rows, flatten_rows]

/-! ## The words inside of the clauses -/

theorem isInner_of_mem_table (h : ∀ p ∈ table.parts, p.IsPlain keywords openings) :
    ∀ w ∈ table.words, IsInner w := by
  intro w hw
  rcases Table.mem_words hw with rfl | rfl | rfl
  · exact (h (.name table.base) (by simp [Table.parts])).isInner
  · decide
  · exact (h (.name table.display) (by simp [Table.parts])).isInner

theorem isInner_of_mem_enumeration {columns : List String}
    (h : ∀ c ∈ columns, (Part.name c).IsPlain keywords openings) :
    ∀ w ∈ enumeration columns, IsInner w :=
  forall_mem_enumeration (fun _ => IsInner.comma) fun c hc => (h c hc).isInner

theorem isInner_of_mem_condition {c : Condition}
    (h : (Part.condition c).IsPlain keywords openings) : ∀ w ∈ wordsOf c.text, IsInner w :=
  fun w hw => ⟨space_not_mem_of_mem_wordsOf hw, h w hw⟩

theorem isInner_of_mem_conjunction {conditions : List Condition}
    (h : ∀ c ∈ conditions, (Part.condition c).IsPlain keywords openings) :
    ∀ w ∈ wordsOf (Join.conjunction conditions), IsInner w := by
  induction conditions with
  | nil => decide
  | cons c rest ih =>
    rw [List.forall_mem_cons] at h
    have hc := isInner_of_mem_condition h.1
    cases rest with
    | nil => rwa [Join.conjunction_singleton]
    | cons d rest =>
      have sep : " AND " = " " ++ "AND" ++ " " := by decide
      have split : Join.conjunction (c :: d :: rest) =
          c.text ++ " " ++ "AND" ++ " " ++ Join.conjunction (d :: rest) := by
        simp only [Join.conjunction, List.map_cons, String.intercalate_cons_cons, sep,
          String.append_assoc]
      rw [split, wordsOf_append, wordsOf_append, List.forall_mem_append, List.forall_mem_append]
      exact ⟨⟨hc, by decide⟩, ih h.2⟩

theorem isClause_join {j : Join} (h : ∀ p ∈ j.parts, p.IsPlain keywords openings) :
    IsClause j.words := by
  have opening : j.kind.opening ∈ openings := by cases j.kind <;> decide
  have on : ∀ w ∈ Join.onWords j.conditions, IsInner w := by
    unfold Join.onWords
    split
    · simp
    · rw [List.forall_mem_cons]
      refine ⟨by decide, isInner_of_mem_conjunction fun c hc => h (.condition c) ?_⟩
      exact List.mem_append_right _ (List.mem_map_of_mem hc)
  refine ⟨opening, ?_⟩
  rw [List.forall_mem_cons, List.forall_mem_append]
  exact ⟨by decide, isInner_of_mem_table fun p hp => h p (List.mem_append_left _ hp), on⟩

theorem isClause_of_mem_clauses (h : ∀ p ∈ s.parts, p.IsPlain keywords openings) :
    ∀ ws ∈ s.clauses, IsClause ws := by
  simp only [parts, List.forall_mem_append] at h
  obtain ⟨⟨⟨⟨-, -⟩, joins⟩, condition⟩, sortings⟩ := h
  have joined : ∀ ws ∈ s.joins.map Join.words, IsClause ws := by
    rw [List.forall_mem_map]
    exact fun j hj => isClause_join fun p hp => joins p (List.mem_flatMap.2 ⟨j, hj, hp⟩)
  have restricted : ∀ ws ∈ s.condition.toList.map fun c => "WHERE" :: wordsOf c.text,
      IsClause ws := by
    rw [List.forall_mem_map]
    exact fun c hc =>
      ⟨by decide, isInner_of_mem_condition (condition (.condition c) (List.mem_map_of_mem hc))⟩
  have sorted : ∀ w ∈ series (s.sortings.map Sorting.words), IsInner w := by
    refine forall_mem_series (fun _ => IsInner.comma) ?_
    rw [← List.flatMap_def]
    intro w hw
    obtain ⟨x, hx, hw⟩ := List.mem_flatMap.1 hw
    rcases List.mem_append.1 hw with column | direction
    · refine isInner_of_mem_enumeration (fun c hc => sortings (.name c) ?_) w column
      exact List.mem_map_of_mem (List.mem_flatMap.2 ⟨x, hx, hc⟩)
    · rw [List.mem_singleton.1 direction]
      cases x.direction <;> decide
  simp only [clauses, List.forall_mem_append]
  refine ⟨⟨joined, restricted⟩, ?_⟩
  split
  · simp
  · rw [List.forall_mem_singleton]
    refine ⟨by decide, ?_⟩
    rw [List.forall_mem_cons]
    exact ⟨by decide, sorted⟩

/-! ## Reading the clauses -/

/-- Words cut in front of each word that opens a clause. -/
def splitClauses : List String → List (List String)
  | [] => [[]]
  | w :: ws =>
    if w ∈ openings then [] :: (splitClauses ws).modifyHead (w :: ·)
    else (splitClauses ws).modifyHead (w :: ·)

def readColumns (ws : List String) : List String := if ws = ["*"] then [] else ws.map bare

def readKind : String → Option Join.Kind
  | "INNER" => some .inner
  | "LEFT" => some .left
  | "RIGHT" => some .right
  | "FULL" => some .full
  | "CROSS" => some .cross
  | _ => none

/-- A joined table, if the clause is one. -/
def readJoin : List String → Option Join.Content
  | word :: _ :: ws =>
    match readKind word, readTable ws with
    | some kind, (some table, []) => some ⟨kind, table, none⟩
    | some kind, (some table, _ :: ws) => some ⟨kind, table, some (sentence ws)⟩
    | _, _ => none
  | _ => none

def readDirection : String → Option Direction
  | "ASC" => some .ascending
  | "DESC" => some .descending
  | _ => none

/-- The columns up to each direction. -/
def readSortings (ws : List String) : List Sorting :=
  (pieces readDirection (ws.map bare)).map fun piece => ⟨piece.1, piece.2⟩

/-- The sortings, if the clause has them. -/
def readOrder : List String → List Sorting
  | "ORDER" :: _ :: ws => readSortings ws
  | _ => []

/-- What the text of a SELECT says. -/
def readSelect (sql : String) : Content :=
  let parts := cutAt "FROM" (wordsOf (chop sql)).tail
  let clauses := splitClauses parts.2
  { columns := readColumns parts.1
    table := (readTable (clauses.headD [])).1
    joins := clauses.tail.filterMap readJoin
    condition := (clauses.tail.filterMap readRestriction).head?
    sortings := clauses.tail.flatMap readOrder }

theorem splitClauses_append {front : List String} (h : ∀ w ∈ front, w ∉ openings)
    (rest : List String) :
    splitClauses (front ++ rest) = (splitClauses rest).modifyHead (front ++ ·) := by
  induction front with
  | nil => exact (congrFun List.modifyHead_id _).symm
  | cons w front ih =>
    rw [List.forall_mem_cons] at h
    rw [List.cons_append, splitClauses, if_neg h.1, ih h.2, List.modifyHead_modifyHead]
    rfl

theorem splitClauses_flatten {clauses : List (List String)} (h : ∀ ws ∈ clauses, IsClause ws) :
    splitClauses clauses.flatten = [] :: clauses := by
  induction clauses with
  | nil => rfl
  | cons ws clauses ih =>
    rw [List.forall_mem_cons] at h
    obtain ⟨hw, hc⟩ := h
    cases ws with
    | nil => exact hw.elim
    | cons w ws =>
      rw [List.flatten_cons, List.cons_append, splitClauses, if_pos hw.1,
        splitClauses_append fun u hu => (hw.2 u hu).2, ih hc, List.modifyHead_cons,
        List.modifyHead_cons, List.append_nil]

theorem readColumns_columnWords {columns : List String}
    (h : ∀ c ∈ columns, (Part.name c).IsPlain keywords openings) :
    readColumns (columnWords columns) = columns := by
  have back := map_bare_enumeration fun c hc => (h c hc).not_endsInComma
  unfold columnWords
  split
  · rename_i empty
    rw [empty]
    rfl
  · -- a star alone would be a column of that name
    have star : enumeration columns ≠ ["*"] := by
      intro same
      rw [same] at back
      have listed : "*" ∈ columns := by
        rw [← back]
        decide
      exact absurd (h "*" listed).1 (by decide)
    rw [readColumns, if_neg star, back]

theorem readDirection_eq_none {w : String} (h : w ∉ keywords) : readDirection w = none := by
  unfold readDirection
  split
  · exact absurd (by decide) h
  · exact absurd (by decide) h
  · rfl

theorem readSortings_series {sortings : List Sorting}
    (h : ∀ x ∈ sortings, ∀ c ∈ x.columns, (Part.name c).IsPlain keywords openings) :
    readSortings (series (sortings.map Sorting.words)) = sortings := by
  have direction : ∀ d : Direction, endsInComma d.word = false ∧ readDirection d.word = some d := by
    intro d
    cases d <;> exact ⟨by decide, rfl⟩
  have last : ∀ ws ∈ sortings.map Sorting.words, ∀ w ∈ ws.getLast?, endsInComma w = false := by
    rw [List.forall_mem_map]
    intro x _ w hw
    rw [Sorting.words, List.getLast?_concat, Option.mem_some] at hw
    exact hw ▸ (direction x.direction).1
  have words : (sortings.map Sorting.words).flatten.map bare =
      sortings.flatMap fun x => x.columns ++ [x.direction.word] := by
    rw [← List.flatMap_def, List.map_flatMap]
    refine List.flatMap_congr ?_
    intro x hx
    rw [Sorting.words, List.map_append,
      map_bare_enumeration fun c hc => (h x hx c hc).not_endsInComma, List.map_singleton,
      bare_of_not_endsInComma (direction x.direction).1]
  have read : pieces readDirection (sortings.flatMap fun x => x.columns ++ [x.direction.word]) =
      sortings.map fun x => (x.columns, x.direction) :=
    pieces_flatMap fun x hx =>
      ⟨fun c hc => readDirection_eq_none (h x hx c hc).2, (direction x.direction).2⟩
  rw [readSortings, map_bare_series last, words, read, List.map_map]
  exact List.map_id _

theorem readJoin_words (j : Join) : readJoin j.words = some j.content := by
  have kind : readKind j.kind.opening = some j.kind := by cases j.kind <;> rfl
  by_cases unconditional : j.conditions = []
  · have table : readTable (j.table.words ++ []) = (some j.table, []) :=
      readTable_words j.table (by simp)
    rw [Join.words, Join.onWords, if_pos unconditional, readJoin, kind, table, Join.content,
      if_pos unconditional]
  · have table := readTable_words j.table
      (show ("ON" :: wordsOf (Join.conjunction j.conditions)).head? ≠ some "AS" by simp)
    rw [Join.words, Join.onWords, if_neg unconditional, readJoin, kind, table, Join.content,
      if_neg unconditional]
    simp only [sentence_wordsOf]

theorem readJoin_eq_none {word : String} (h : readKind word = none) (ws : List String) :
    readJoin (word :: ws) = none := by
  cases ws with
  | nil => rfl
  | cons _ ws => rw [readJoin, h]

/-! ### Each kind of clause is read from its own words and from no others -/

theorem read_join (j : Join) :
    readJoin j.words = some j.content ∧ readRestriction j.words = none ∧
      readOrder j.words = [] := by
  refine ⟨readJoin_words j, ?_, ?_⟩ <;> rw [Join.words] <;> cases j.kind <;> rfl

theorem read_restriction (c : Condition) :
    readJoin ("WHERE" :: wordsOf c.text) = none ∧
      readRestriction ("WHERE" :: wordsOf c.text) = some c.text ∧
      readOrder ("WHERE" :: wordsOf c.text) = [] := by
  refine ⟨readJoin_eq_none rfl _, ?_, rfl⟩
  rw [readRestriction, sentence_wordsOf]

theorem read_order {sortings : List Sorting}
    (h : ∀ x ∈ sortings, ∀ c ∈ x.columns, (Part.name c).IsPlain keywords openings) :
    readJoin ("ORDER" :: "BY" :: series (sortings.map Sorting.words)) = none ∧
      readRestriction ("ORDER" :: "BY" :: series (sortings.map Sorting.words)) = none ∧
      readOrder ("ORDER" :: "BY" :: series (sortings.map Sorting.words)) = sortings :=
  ⟨readJoin_eq_none rfl _, rfl, readSortings_series h⟩

theorem read_clauses (h : ∀ p ∈ s.parts, p.IsPlain keywords openings) :
    s.clauses.filterMap readJoin = s.joins.map Join.content ∧
    (s.clauses.filterMap readRestriction).head? = s.condition.map Condition.text ∧
    s.clauses.flatMap readOrder = s.sortings := by
  have columns : ∀ x ∈ s.sortings, ∀ c ∈ x.columns, (Part.name c).IsPlain keywords openings :=
    fun x hx c hc => h (.name c) <|
      List.mem_append_right _ (List.mem_map_of_mem (List.mem_flatMap.2 ⟨x, hx, hc⟩))
  obtain ⟨notJoin, notRestriction, ordered⟩ := read_order columns
  have joined : (s.joins.map Join.words).filterMap readJoin = s.joins.map Join.content := by
    rw [List.filterMap_map, ← List.filterMap_eq_map]
    exact List.filterMap_congr fun j _ => (read_join j).1
  have unrestricted : (s.joins.map Join.words).filterMap readRestriction = [] := by
    rw [List.filterMap_eq_nil_iff, List.forall_mem_map]
    exact fun j _ => (read_join j).2.1
  have unordered : (s.joins.map Join.words).flatMap readOrder = [] := by
    rw [List.flatMap_eq_nil_iff, List.forall_mem_map]
    exact fun j _ => (read_join j).2.2
  rw [clauses]
  simp only [List.filterMap_append, List.flatMap_append, joined, unrestricted, unordered]
  cases hc : s.condition <;> by_cases hs : s.sortings = [] <;>
    simp [hs, notJoin, notRestriction, ordered, read_restriction]

theorem from_not_mem_columnWords {columns : List String}
    (h : ∀ c ∈ columns, (Part.name c).IsPlain keywords openings) :
    "FROM" ∉ columnWords columns := by
  unfold columnWords
  split
  · decide
  · exact not_mem_enumeration (by decide) fun found => (h "FROM" found).2 (by decide)

theorem isInner_of_mem_columnWords {columns : List String}
    (h : ∀ c ∈ columns, (Part.name c).IsPlain keywords openings) :
    ∀ w ∈ columnWords columns, IsInner w := by
  unfold columnWords
  split
  · decide
  · exact isInner_of_mem_enumeration h

/-- The text of a SELECT from a table says what was put into it. -/
theorem readSelect_body (source : s.target.table = some table)
    (sorted : ∀ x ∈ s.sortings, x.columns ≠ [])
    (h : ∀ p ∈ s.parts, p.IsPlain keywords openings) : readSelect (s.body ++ ";") = s.content := by
  have columns : ∀ c ∈ s.columns, (Part.name c).IsPlain keywords openings := fun c hc =>
    h (.name c) (by simp [parts, hc])
  have named : ∀ w ∈ table.words, IsInner w := isInner_of_mem_table fun p hp =>
    h p (by simp [parts, Target.parts, source, hp])
  have clauses := isClause_of_mem_clauses h
  have spaceless : ∀ w ∈ "SELECT" ::
      (columnWords s.columns ++ "FROM" :: (table.words ++ s.clauses.flatten)), ' ' ∉ w.toList := by
    rw [List.forall_mem_cons, List.forall_mem_append, List.forall_mem_cons, List.forall_mem_append,
      List.forall_mem_flatten]
    exact ⟨by decide, fun w hw => (isInner_of_mem_columnWords columns w hw).1, by decide,
      fun w hw => (named w hw).1, fun ws hw => (clauses ws hw).space_not_mem⟩
  obtain ⟨joins, condition, sortings⟩ := read_clauses h
  -- the first FROM stands behind the columns, and no word of the table opens a clause
  have alone : readTable (table.words ++ []) = (some table, []) := readTable_words table (by simp)
  rw [readSelect, chop_semicolon, body_eq_sentence source sorted,
    wordsOf_sentence (List.cons_ne_nil _ _) spaceless, List.tail_cons,
    cutAt_append (from_not_mem_columnWords columns)]
  dsimp only
  rw [splitClauses_append fun w hw => (named w hw).2, splitClauses_flatten clauses,
    List.modifyHead_cons, List.headD_cons, List.tail_cons, alone,
    readColumns_columnWords columns, joins, condition, sortings, content, source]

/-! ## Reading a SELECT -/

theorem columns_ne_nil_of_mem_sortings {steps : List Step} :
    ∀ x ∈ (assemble steps).sortings, x.columns ≠ [] := by
  intro x hx
  obtain ⟨columns, direction, -, nonempty, rfl⟩ := exists_step_of_mem_sortings hx
  exact nonempty

/-- **The text of a SELECT determines its clauses.**  They can be read off it, so two SELECTs with
the same text have the same columns, table, joins, condition and sortings. -/
theorem readSelect_sql {steps : List Step}
    (plain : ∀ p ∈ (History.select steps).parts, p.IsPlain keywords openings) {sql : String}
    (written : (Statement.select (assemble steps)).sql = .ok sql) :
    readSelect sql = (assemble steps).content ∧
      ∀ other : List Step, (∀ p ∈ (History.select other).parts, p.IsPlain keywords openings) →
        (Statement.select (assemble other)).sql = .ok sql →
        (assemble other).content = (assemble steps).content := by
  have read : ∀ steps : List Step,
      (∀ p ∈ (History.select steps).parts, p.IsPlain keywords openings) →
      (Statement.select (assemble steps)).sql = .ok sql →
      readSelect sql = (assemble steps).content := by
    intro steps plain written
    obtain ⟨faultless, text⟩ := (Statement.sql_eq_ok_iff _ _).1 written
    obtain ⟨table, source⟩ := Target.exists_table (List.append_eq_nil_iff.1 faultless).2
    have kept : ∀ p ∈ (History.select steps).statement.parts, p.IsPlain keywords openings :=
      fun p hp => plain p (History.mem_parts_of_statement hp)
    rw [text]
    exact readSelect_body source columns_ne_nil_of_mem_sortings kept
  refine ⟨read steps plain written, ?_⟩
  intro other plain' written'
  rw [← read other plain' written', read steps plain written]

/-- Several joins, conditions and sortings, and a text value with a word of the clauses in it. -/
def everyClause : List Step :=
  [.addColumns (.many ["id", "u.name"]), .source ((Table.named "users").shownAs "u"),
    .leftJoin ((Table.named "orders").shownAs "o")
      [.leaf (.verbatim "u.id = o.user"), .leaf (.compare "o.paid" .equal (.bool true))],
    .crossJoin (.named "tags"), .restrict (.leaf (.compare "kind" .equal (.text "FROM, a"))),
    .sortAscending (.many ["name", "u.id"]), .sortDescending (.one "age")]

theorem readSelect_sql_everyClause :
    (∀ p ∈ (History.select everyClause).parts, p.IsPlain keywords openings) ∧
    readSelect ("SELECT id, u.name FROM users AS u LEFT JOIN orders AS o ON u.id = o.user AND" ++
      " o.paid = true CROSS JOIN tags WHERE kind = 'FROM, a' ORDER BY name, u.id ASC, age DESC;") =
      { columns := ["id", "u.name"]
        table := some ⟨"users", "u"⟩
        joins := [⟨.left, ⟨"orders", "o"⟩, some "u.id = o.user AND o.paid = true"⟩,
          ⟨.cross, ⟨"tags", "tags"⟩, none⟩]
        condition := some "kind = 'FROM, a'"
        sortings := [⟨["name", "u.id"], .ascending⟩, ⟨["age"], .descending⟩] } := by
  have plain : ∀ p ∈ (History.select everyClause).parts, p.IsPlain keywords openings := by decide
  have written : (Statement.select (assemble everyClause)).sql = .ok
      ("SELECT id, u.name FROM users AS u LEFT JOIN orders AS o ON u.id = o.user AND" ++
        " o.paid = true CROSS JOIN tags WHERE kind = 'FROM, a'" ++
        " ORDER BY name, u.id ASC, age DESC;") := rfl
  exact ⟨plain, (readSelect_sql plain written).1⟩

end Select

end SqlAssembly
