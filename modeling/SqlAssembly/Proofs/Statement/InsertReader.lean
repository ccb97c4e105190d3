import SqlAssembly.Proofs.Statement.Names

/-!
# Reading an INSERT

The text of an INSERT says all there is to say about it, as long as its names are plain and no
text value has a quote in it.

* `Insert.Content`, `Insert.content` — what an INSERT says, and what the steps put into it.
* `Insert.tupleWords`, `Insert.readTuples` — bracketed lists as words, and the lists in them.
* `Insert.body_eq_sentence` — an INSERT as a row of words.
* `Insert.readInsert` — reads them again: the table, the columns up to VALUES, and the rows.
* `Insert.readInsert_sql` — this gives back what was written.
-/

set_option autoImplicit false

namespace SqlAssembly.Insert

/-- What an INSERT says. -/
structure Content where
  table : Option Table
  columns : List String
  /-- The values of each row as they are written. -/
  rows : List (List String)
  deriving DecidableEq, Repr

/-- What a run puts into an INSERT: the last table, the columns it started with, and the rows with
a value in their order. -/
def content (columns : Arguments String) (steps : List Step) : Content :=
  { table := (steps.filterMap Step.table?).getLast?
    columns := columns.toList
    rows := ((steps.filterMap Step.row?).filter fun row => !row.isEmpty).map (·.map Value.literal) }

/-- The words that are no names in an INSERT. -/
def keywords : List String := ["INTO", "AS", "VALUES"]

/-! ## Lists in brackets -/

/-- A list between brackets as words. -/
def tupleWords (items : List String) : List String :=
  "(" :: (enumeration items ++ [")"])

/-- The word that closes a list. -/
def closes (w : String) : Option Unit := if w = ")" then some () else none

/-- The items of each list, without the brackets and the commas. -/
def readTuples (ws : List String) : List (List String) :=
  (pieces closes ((ws.map bare).filter fun w => w ≠ "(")).map Prod.fst

theorem tuple_eq_sentence {items : List String} (h : items ≠ []) :
    tuple items = sentence (tupleWords items) := by
  have opening : "( " = "(" ++ " " := by decide
  have closing : " )" = " " ++ ")" := by decide
  rw [tupleWords, sentence_cons_of_ne_nil (by simp),
    sentence_append (enumeration_ne_nil h) (List.cons_ne_nil _ _),
    sentence_singleton, ← intercalate_eq_sentence, tuple, opening, closing]
  simp only [String.append_assoc]

theorem isLexeme_of_mem_tupleWords {items : List String} (h : ∀ x ∈ items, IsAtom x) :
    ∀ w ∈ tupleWords items, IsLexeme w := by
  have listed : ∀ w ∈ enumeration items, IsLexeme w :=
    forall_mem_enumeration (fun _ => IsLexeme.comma) fun x hx => (h x hx).isLexeme
  rw [tupleWords, List.forall_mem_cons, List.forall_mem_append, List.forall_mem_singleton]
  exact ⟨by decide, listed, by decide⟩

theorem map_bare_tupleWords {items : List String} (h : ∀ x ∈ items, IsAtom x) :
    (tupleWords items).map bare = "(" :: (items ++ [")"]) := by
  have bracket : bare "(" = "(" ∧ bare ")" = ")" := by decide
  rw [tupleWords, List.map_cons, List.map_append, List.map_singleton,
    map_bare_enumeration fun x hx => (h x hx).not_endsInComma, bracket.1, bracket.2]

/-- Lists one behind the other are read one by one. -/
theorem readTuples_series {rows : List (List String)} (h : ∀ row ∈ rows, ∀ x ∈ row, IsAtom x) :
    readTuples (series (rows.map tupleWords)) = rows := by
  have last : ∀ ws ∈ rows.map tupleWords, ∀ w ∈ ws.getLast?, endsInComma w = false := by
    rw [List.forall_mem_map]
    intro row _ w hw
    rw [tupleWords, ← List.cons_append, List.getLast?_concat, Option.mem_some] at hw
    rw [← hw]
    decide
  have words : (rows.map tupleWords).flatten.map bare =
      rows.flatMap fun row => "(" :: (row ++ [")"]) := by
    rw [← List.flatMap_def, List.map_flatMap]
    exact List.flatMap_congr fun row hr => map_bare_tupleWords (h row hr)
  have opened : (rows.flatMap fun row => "(" :: (row ++ [")"])).filter (fun w => w ≠ "(") =
      rows.flatMap fun row => row ++ [")"] := by
    rw [List.filter_flatMap]
    refine List.flatMap_congr ?_
    intro row hr
    -- an item is a name or a literal, and none of them is a bracket
    have items : row.filter (fun w => w ≠ "(") = row := by
      rw [List.filter_eq_self]
      intro x hx
      rw [decide_eq_true_iff]
      exact (h row hr x hx).ne_of_head (by decide) (by decide)
    rw [List.filter_cons_of_neg (by decide), List.filter_append, items]
    rfl
  have read : pieces closes (rows.flatMap fun row => row ++ [")"]) =
      rows.map fun row => (row, ()) := by
    refine pieces_flatMap fun row hr => ⟨?_, rfl⟩
    intro x hx
    exact if_neg ((h row hr x hx).ne_of_head (by decide) (by decide))
  rw [readTuples, map_bare_series last, words, opened, read, List.map_map]
  exact List.map_id _

/-! ## An INSERT as words -/

/-- The column list as words. -/
def columnWords (columns : List String) : List String :=
  if columns = [] then [] else tupleWords columns

/-- The rows as words. -/
def rowWords (rows : List (List Value)) : List String :=
  series ((rows.map (·.map Value.literal)).map tupleWords)

theorem columnPart_eq (columns : List String) :
    columnPart columns = (if columns = [] then [] else [tupleWords columns]).map sentence := by
  cases columns with
  | nil => rfl
  | cons c columns =>
    rw [if_neg (List.cons_ne_nil _ _), List.map_singleton,
      ← tuple_eq_sentence (List.cons_ne_nil c columns)]
    rfl

theorem rowWords_ne_nil {rows : List (List Value)} (nonempty : rows ≠ []) : rowWords rows ≠ [] :=
  series_ne_nil (by simpa using nonempty) (by simp [tupleWords])

theorem rowPart_eq {rows : List (List Value)} (nonempty : rows ≠ []) (h : ∀ row ∈ rows, row ≠ []) :
    rowPart rows = [["VALUES"], rowWords rows].map sentence := by
  have words : rows.map (fun row => tuple (row.map Value.literal)) =
      ((rows.map (·.map Value.literal)).map tupleWords).map sentence := by
    rw [List.map_map, List.map_map]
    exact List.map_congr_left fun row hr => tuple_eq_sentence (by simpa using h row hr)
  have filled : rows.isEmpty = false := by simpa using nonempty
  rw [rowPart, filled, words, intercalate_sentence (by simp [tupleWords]), List.map_cons,
    List.map_singleton, sentence_singleton]
  rfl

variable {s : Insert} {table : Table}

/-- An INSERT as a row of words. -/
theorem body_eq_sentence (target : s.target.table = some table) (nonempty : s.rows ≠ [])
    (h : ∀ row ∈ s.rows, row ≠ []) :
    s.body = sentence ("INSERT" :: "INTO" ::
      (table.words ++ (columnWords s.columns ++ "VALUES" :: rowWords s.rows))) := by
  have parts : ["INSERT"] ++ s.target.behind "INTO" ++ columnPart s.columns ++ rowPart s.rows =
      ([["INSERT"], ["INTO"], table.words] ++
        (if s.columns = [] then [] else [tupleWords s.columns]) ++
          [["VALUES"], rowWords s.rows]).map sentence := by
    rw [Target.behind, target, columnPart_eq, rowPart_eq nonempty h, List.map_append,
      List.map_append]
    simp only [List.map_cons, List.map_nil, sentence_singleton, Table.sql_eq_sentence,
      List.cons_append, List.nil_append]
  have filled := rowWords_ne_nil nonempty
  rw [body, parts, sentence_map_sentence, columnWords]
  · split <;> simp
  · split <;> simp [Table.words_ne_nil, tupleWords, filled]

/-! ## Reading an INSERT -/

/-- What the text of an INSERT says. -/
def readInsert (sql : String) : Content :=
  let target := readTable ((lexemes (chop sql)).drop 2)
  let parts := cutAt "VALUES" target.2
  { table := target.1
    columns := (readTuples parts.1).flatten
    rows := readTuples parts.2 }

theorem readTuples_columnWords {columns : List String} (h : ∀ c ∈ columns, IsAtom c) :
    (readTuples (columnWords columns)).flatten = columns := by
  unfold columnWords
  split
  · rename_i empty
    rw [empty]
    rfl
  · have alone : readTuples (series ([columns].map tupleWords)) = [columns] :=
      readTuples_series (by simpa using h)
    rw [List.map_singleton, series] at alone
    rw [alone, List.flatten_singleton]

theorem values_not_mem_columnWords {columns : List String}
    (h : ∀ c ∈ columns, (Part.name c).IsPlain keywords []) : "VALUES" ∉ columnWords columns := by
  have items : "VALUES" ∉ enumeration columns :=
    not_mem_enumeration (by decide) fun found => (h "VALUES" found).2 (by decide)
  unfold columnWords
  split
  · exact List.not_mem_nil
  · simpa [tupleWords] using items

/-- The text of an INSERT with a table and a row says what was put into it. -/
theorem readInsert_body (target : s.target.table = some table) (nonempty : s.rows ≠ [])
    (filled : ∀ row ∈ s.rows, row ≠ []) (h : ∀ p ∈ s.parts, p.IsPlain keywords []) :
    readInsert (s.body ++ ";") = ⟨s.target.table, s.columns, s.rows.map (·.map Value.literal)⟩ := by
  have columns : ∀ c ∈ s.columns, (Part.name c).IsPlain keywords [] := fun c hc =>
    h (.name c) (by simp [parts, hc])
  have atoms : ∀ c ∈ s.columns, IsAtom c := fun c hc => (columns c hc).1.isAtom
  have literals : ∀ row ∈ s.rows.map (·.map Value.literal), ∀ x ∈ row, IsAtom x := by
    rw [List.forall_mem_map]
    intro row hr x hx
    obtain ⟨v, hv, rfl⟩ := List.mem_map.1 hx
    refine Value.isAtom_literal (h (.value v) (List.mem_append_right _ ?_))
    exact List.mem_map_of_mem (List.mem_flatten.2 ⟨row, hr, hv⟩)
  have named : ∀ w ∈ table.words, IsLexeme w := Table.isLexeme_of_mem_words fun p hp =>
    h p (by simp [parts, Target.parts, target, hp])
  have listed : ∀ w ∈ columnWords s.columns, IsLexeme w := by
    unfold columnWords
    split
    · simp
    · exact isLexeme_of_mem_tupleWords atoms
  have rows : ∀ w ∈ rowWords s.rows, IsLexeme w := by
    refine forall_mem_series (fun _ => IsLexeme.comma) ?_
    rw [List.forall_mem_flatten, List.forall_mem_map]
    exact fun row hr => isLexeme_of_mem_tupleWords (literals row hr)
  have whole : ∀ w ∈ "INSERT" :: "INTO" ::
      (table.words ++ (columnWords s.columns ++ "VALUES" :: rowWords s.rows)), IsLexeme w := by
    rw [List.forall_mem_cons, List.forall_mem_cons, List.forall_mem_append, List.forall_mem_append,
      List.forall_mem_cons]
    exact ⟨by decide, by decide, named, listed, by decide, rows⟩
  have first : (columnWords s.columns ++ "VALUES" :: rowWords s.rows).head? ≠ some "AS" := by
    unfold columnWords
    split <;> simp [tupleWords]
  rw [readInsert, chop_semicolon, body_eq_sentence target nonempty filled,
    lexemes_sentence (List.cons_ne_nil _ _) whole, List.drop_succ_cons, List.drop_succ_cons,
    List.drop_zero, readTable_words table first]
  dsimp only
  rw [cutAt_append (values_not_mem_columnWords columns), readTuples_columnWords atoms, rowWords,
    readTuples_series literals, target]

/-- The table that an INSERT is left with is the last one. -/
theorem getLast?_of_target {columns : Arguments String} {steps : List Step}
    (h : (assemble columns steps).target.table = some table) :
    (steps.filterMap Step.table?).getLast? = some table := by
  rw [History.target_insert] at h
  exact (Option.filter_eq_some_iff.1 h).1

/-- **The text of an INSERT determines its table, columns and rows.**  They can be read off it, so
two INSERTs with the same text have the same: no row or value is lost, merged, split or moved. -/
theorem readInsert_sql {columns : Arguments String} {steps : List Step}
    (plain : ∀ p ∈ (History.insert columns steps).parts, p.IsPlain keywords []) {sql : String}
    (written : (History.insert columns steps).statement.sql = .ok sql) :
    readInsert sql = content columns steps ∧
      ∀ (columns' : Arguments String) (steps' : List Step),
        (∀ p ∈ (History.insert columns' steps').parts, p.IsPlain keywords []) →
        (History.insert columns' steps').statement.sql = .ok sql →
        content columns' steps' = content columns steps := by
  have read : ∀ (columns : Arguments String) (steps : List Step),
      (∀ p ∈ (History.insert columns steps).parts, p.IsPlain keywords []) →
      (History.insert columns steps).statement.sql = .ok sql →
      readInsert sql = content columns steps := by
    intro columns steps plain written
    obtain ⟨faultless, text⟩ := (Statement.sql_eq_ok_iff _ _).1 written
    obtain ⟨targeted, rowed⟩ := List.append_eq_nil_iff.1 faultless
    obtain ⟨table, target⟩ := Target.exists_table (List.append_eq_nil_iff.1 targeted).2
    have nonempty : (assemble columns steps).rows ≠ [] := by
      intro empty
      rw [empty] at rowed
      cases rowed
    have filled : ∀ row ∈ (assemble columns steps).rows, row ≠ [] := by
      intro row hr
      rw [rows_assemble, List.mem_filter] at hr
      simpa using hr.2
    have kept : ∀ p ∈ (assemble columns steps).parts, p.IsPlain keywords [] := fun p hp =>
      plain p (History.mem_parts_of_statement hp)
    rw [text]
    refine (readInsert_body target nonempty filled kept).trans ?_
    rw [content, getLast?_of_target target, target, columns_assemble, rows_assemble]
  refine ⟨read columns steps plain written, ?_⟩
  intro columns' steps' plain' written'
  rw [← read columns' steps' plain' written', read columns steps plain written]

/-- Two rows, between them a step without a value, and a text that looks like the end of a row. -/
def bracketInText : List Step :=
  [.target ((Table.named "log").shownAs "l"), .row (.many [.int 1, .text " ), ( "]), .row .none,
    .row (.group [.one (.text "a, b"), .one (.column ⟨"l", "id"⟩)])]

theorem readInsert_sql_bracketInText :
    (∀ p ∈ (History.insert (.many ["id", "note"]) bracketInText).parts, p.IsPlain keywords []) ∧
    readInsert
      "INSERT INTO log AS l ( id, note ) VALUES ( 1, ' ), ( ' ), ( 'a, b', l.id );" =
      { table := some ⟨"log", "l"⟩
        columns := ["id", "note"]
        rows := [["1", "' ), ( '"], ["'a, b'", "l.id"]] } := by
  have plain : ∀ p ∈ (History.insert (.many ["id", "note"]) bracketInText).parts,
      p.IsPlain keywords [] := by decide
  have written : (History.insert (.many ["id", "note"]) bracketInText).statement.sql = .ok
      "INSERT INTO log AS l ( id, note ) VALUES ( 1, ' ), ( ' ), ( 'a, b', l.id );" := rfl
  exact ⟨plain, (readInsert_sql plain written).1⟩

end SqlAssembly.Insert
