import SqlAssembly.Proofs.Statement.SelectReader

/-!
# Reading an ORDER BY list

A step sorts by several columns at once, and its direction is written once, behind the last of
them.  A database reads a direction for each column.

* `readOrdering` — the columns of an ORDER BY list, each with its direction.
* `Step.requested` — the columns of a step, each with the direction of the step.
* `Step.received` — the same columns as they are read: all but the last one are ascending.
* `readOrdering_body` — a SELECT is read like this, which is what was requested as long as no
  descending step has several columns.
-/

set_option autoImplicit false

namespace SqlAssembly.Select

open Reading

/-! ## Rows -/

section

variable {α β γ : Type}

theorem mapM_append_eq_some {f : α → Option β} {first second : List α} {a b : List β}
    (hf : first.mapM f = some a) (hs : second.mapM f = some b) :
    (first ++ second).mapM f = some (a ++ b) := by
  rw [List.mapM_append, hf, hs]
  rfl

theorem mapM_flatMap_eq_some {f : α → Option β} {given : γ → List α} {found : γ → List β}
    {list : List γ} (h : ∀ x ∈ list, (given x).mapM f = some (found x)) :
    (list.flatMap given).mapM f = some (list.flatMap found) := by
  induction list with
  | nil => rfl
  | cons x rest ih =>
    rw [List.forall_mem_cons] at h
    rw [List.flatMap_cons, List.flatMap_cons]
    exact mapM_append_eq_some h.1 (ih h.2)

/-- Lists of lists of the same lengths are the same in a row only if each is the same. -/
theorem flatMap_eq_flatMap_iff {f g : α → List β} {list : List α}
    (h : ∀ x ∈ list, (f x).length = (g x).length) :
    list.flatMap f = list.flatMap g ↔ ∀ x ∈ list, f x = g x := by
  induction list with
  | nil => simp
  | cons x rest ih =>
    rw [List.forall_mem_cons] at h
    rw [List.flatMap_cons, List.flatMap_cons, List.forall_mem_cons, ← ih h.2]
    constructor
    · exact fun same => List.append_inj same h.1
    · rintro ⟨first, others⟩
      rw [first, others]

end

/-- What is put behind a list stands behind its last item. -/
theorem intercalate_concat (sep : String) (init : List String) (last behind : String) :
    sep.intercalate (init ++ [last]) ++ behind = sep.intercalate (init ++ [last ++ behind]) := by
  induction init with
  | nil =>
    rw [List.nil_append, List.nil_append, String.intercalate_singleton,
      String.intercalate_singleton]
  | cons first rest ih =>
    cases rest with
    | nil =>
      simp only [List.cons_append, List.nil_append, String.intercalate_cons_cons,
        String.intercalate_singleton, String.append_assoc]
    | cons second rest =>
      simp only [List.cons_append] at ih ⊢
      rw [String.intercalate_cons_cons, String.intercalate_cons_cons, ← ih]
      simp only [String.append_assoc]

/-! ## Reading -/

/-- The words of each item of a list. -/
def itemWords (list : String) : List (List String) :=
  (list.toList.splitOn ',').map fun item => (wordsOf (String.ofList item)).filter (· ≠ "")

/-- An item of an ordering: a column, and the direction behind it if there is one.  Without one the
order is ascending. -/
def readItem : List String → Option (String × Direction)
  | [] => none
  | column :: rest =>
    if (readDirection column).isSome then none
    else
      match rest with
      | [] => some (column, .ascending)
      | [word] => (readDirection word).map (column, ·)
      | _ => none

/-- The columns of an ORDER BY list, each with its direction. -/
def readOrdering (list : String) : Option (List (String × Direction)) :=
  if list = "" then some [] else (itemWords list).mapM readItem

theorem readDirection_of_not_mem {word : String} (h : word ∉ ["ASC", "DESC"]) :
    readDirection word = none := by
  unfold readDirection
  split
  · exact absurd (by decide) h
  · exact absurd (by decide) h
  · rfl

theorem readDirection_word (d : Direction) : readDirection d.word = some d := by
  cases d <;> rfl

/-! ## The items of a list -/

/-- A space in front of an item is no part of its words. -/
theorem words_space_cons (item : List Char) :
    (wordsOf (String.ofList (' ' :: item))).filter (· ≠ "") =
      (wordsOf (String.ofList item)).filter (· ≠ "") := by
  have split : tokens (' ' :: item) = [] :: tokens item := tokens_append [] item
  rw [wordsOf, String.toList_ofList, split, List.map_cons, wordsOf, String.toList_ofList]
  exact List.filter_cons_of_neg (by decide)

theorem itemWords_append (first second : String) :
    itemWords (first ++ ", " ++ second) = itemWords first ++ itemWords second := by
  have comma : ", ".toList = [',', ' '] := by decide
  obtain ⟨item, items, shape⟩ :=
    List.exists_cons_of_ne_nil (List.splitOn_ne_nil ',' second.toList)
  unfold itemWords
  rw [String.toList_append, String.toList_append, comma, List.append_assoc, List.cons_append,
    List.singleton_append, List.splitOn_append_cons_self, List.splitOn_cons_eq_if_modifyHead,
    if_neg (by decide), shape, List.modifyHead_cons, List.map_append, List.map_cons,
    words_space_cons, List.map_cons]

/-- The items of several lists are those of each in turn. -/
theorem itemWords_intercalate {lists : List String} (nonempty : lists ≠ []) :
    itemWords (", ".intercalate lists) = lists.flatMap itemWords := by
  induction lists with
  | nil => exact absurd rfl nonempty
  | cons first rest ih =>
    cases rest with
    | nil => rw [String.intercalate_singleton, List.flatMap_singleton]
    | cons second rest =>
      rw [String.intercalate_cons_cons, itemWords_append, ih (List.cons_ne_nil _ _)]
      exact List.flatMap_cons.symm

/-- The words that items are made of. -/
def IsItemWord (w : String) : Prop := w ≠ "" ∧ ' ' ∉ w.toList ∧ ',' ∉ w.toList

theorem itemWords_sentence {words : List String} (nonempty : words ≠ [])
    (h : ∀ w ∈ words, IsItemWord w) :
    itemWords (sentence words) = [words] := by
  have all : ∀ c ∈ (sentence words).toList, c ≠ ',' := by
    rw [toList_sentence, forall_mem_intercalate_iff (List.forall_mem_singleton.2 (by decide)),
      List.forall_mem_map]
    exact fun w hw => List.forall_mem_ne'.2 (h w hw).2.2
  have comma : ',' ∉ (sentence words).toList := List.forall_mem_ne'.1 all
  rw [itemWords, List.splitOn_eq_singleton comma, List.map_singleton, String.ofList_toList,
    wordsOf_sentence nonempty fun w hw => (h w hw).2.1, List.filter_eq_self.2]
  intro w hw
  simpa using (h w hw).1

/-! ## Reading a sorting -/

/-- Columns of which only the last has the direction; the others are ascending. -/
def lastDirected (columns : List String) (direction : Direction) : List (String × Direction) :=
  columns.dropLast.map (·, .ascending) ++ columns.getLast?.toList.map (·, direction)

theorem lastDirected_concat (columns : List String) (last : String) (direction : Direction) :
    lastDirected (columns ++ [last]) direction =
      columns.map (·, .ascending) ++ [(last, direction)] := by
  simp [lastDirected]

theorem length_lastDirected (columns : List String) (direction : Direction) :
    (lastDirected columns direction).length = columns.length := by
  induction columns using List.reverseRecOn with
  | nil => rfl
  | append_singleton columns last _ => simp [lastDirected_concat]

/-- The columns of a sorting all have its direction if that is what a column without one has, or if
there are not several of them. -/
theorem lastDirected_eq_map_iff (columns : List String) (direction : Direction) :
    lastDirected columns direction = columns.map (·, direction) ↔
      (direction = .descending → columns.length ≤ 1) := by
  induction columns using List.reverseRecOn with
  | nil => simp [lastDirected]
  | append_singleton columns last _ =>
    rw [lastDirected_concat, List.map_append, List.map_singleton, List.append_left_inj]
    cases direction with
    | ascending => simp
    | descending =>
      cases columns with
      | nil => simp
      | cons first rest => simp

/-- The columns that can be told from a direction. -/
def IsSortColumn (column : String) : Prop := IsName column ∧ column ∉ ["ASC", "DESC"]

instance : DecidablePred IsSortColumn := fun _ => inferInstanceAs (Decidable (_ ∧ _))

theorem IsSortColumn.isItemWord {column : String} (h : IsSortColumn column) :
    IsItemWord column := by
  refine ⟨?_, h.1.space_not_mem, fun comma => ?_⟩
  · rintro rfl
    exact absurd h.1 (by decide)
  · exact absurd (h.1.isWordChar_of_mem comma) (by decide)

theorem isItemWord_direction (d : Direction) : IsItemWord d.word := by
  cases d <;> exact ⟨by decide, by decide, by decide⟩

theorem mapM_itemWords_column {c : String} (h : IsSortColumn c) :
    (itemWords c).mapM readItem = some [(c, .ascending)] := by
  have items : itemWords (sentence [c]) = [[c]] :=
    itemWords_sentence (List.cons_ne_nil _ _) (List.forall_mem_singleton.2 h.isItemWord)
  rw [sentence_singleton] at items
  have item : readItem [c] = some (c, .ascending) := by
    rw [readItem, readDirection_of_not_mem h.2, if_neg (by simp)]
  rw [items, List.mapM_cons, item]
  rfl

theorem mapM_itemWords_directed {c : String} (h : IsSortColumn c) (d : Direction) :
    (itemWords (c ++ (" " ++ d.word))).mapM readItem = some [(c, d)] := by
  have words : ∀ w ∈ [c, d.word], IsItemWord w :=
    List.forall_mem_cons.2 ⟨h.isItemWord, List.forall_mem_singleton.2 (isItemWord_direction d)⟩
  have items : itemWords (sentence [c, d.word]) = [[c, d.word]] :=
    itemWords_sentence (List.cons_ne_nil _ _) words
  rw [sentence, String.intercalate_cons_cons, String.intercalate_singleton,
    String.append_assoc] at items
  have item : readItem [c, d.word] = some (c, d) := by
    rw [readItem, readDirection_of_not_mem h.2, if_neg (by simp), readDirection_word]
    rfl
  rw [items, List.mapM_cons, item]
  rfl

/-- A sorting is read as its columns, of which the last has the direction. -/
theorem mapM_itemWords_sql {s : Sorting} (nonempty : s.columns ≠ [])
    (h : ∀ c ∈ s.columns, IsSortColumn c) :
    (itemWords s.sql).mapM readItem = some (lastDirected s.columns s.direction) := by
  obtain ⟨columns, direction⟩ := s
  obtain ⟨init, last, rfl⟩ := (List.eq_nil_or_concat columns).resolve_left nonempty
  rw [List.concat_eq_append] at h ⊢
  obtain ⟨first, final⟩ := List.forall_mem_append.1 h
  have behind : (itemWords (last ++ (" " ++ direction.word))).mapM readItem =
      some [(last, direction)] :=
    mapM_itemWords_directed (List.forall_mem_singleton.1 final) direction
  have front : (init.flatMap itemWords).mapM readItem =
      some (init.flatMap fun c => [(c, .ascending)]) :=
    mapM_flatMap_eq_some fun c hc => mapM_itemWords_column (first c hc)
  rw [Sorting.sql, String.append_assoc, intercalate_concat, itemWords_intercalate (by simp),
    List.flatMap_append, List.flatMap_singleton, lastDirected_concat]
  rw [← List.map_eq_flatMap] at front
  exact mapM_append_eq_some front behind

/-- Sortings are read one after the other. -/
theorem mapM_itemWords_sortings {sortings : List Sorting} (nonempty : sortings ≠ [])
    (columns : ∀ s ∈ sortings, s.columns ≠ [] ∧ ∀ c ∈ s.columns, IsSortColumn c) :
    (itemWords (", ".intercalate (sortings.map Sorting.sql))).mapM readItem =
      some (sortings.flatMap fun s => lastDirected s.columns s.direction) := by
  rw [itemWords_intercalate (by simpa using nonempty), List.flatMap_map]
  exact mapM_flatMap_eq_some fun s hs => mapM_itemWords_sql (columns s hs).1 (columns s hs).2

theorem ordering_ne_empty {sortings : List Sorting} (nonempty : sortings ≠ [])
    (columns : ∀ s ∈ sortings, s.columns ≠ [] ∧ ∀ c ∈ s.columns, IsSortColumn c) :
    ", ".intercalate (sortings.map Sorting.sql) ≠ "" := by
  intro empty
  have read := mapM_itemWords_sortings nonempty columns
  rw [empty] at read
  cases read

/-! ## Steps -/

namespace Step

/-- The columns of a step, each with the direction of the step. -/
def requested : Step → List (String × Direction)
  | sort columns direction => columns.toList.map (·, direction)
  | _ => []

/-- The columns of a step as they are read. -/
def received : Step → List (String × Direction)
  | sort columns direction => lastDirected columns.toList direction
  | _ => []

theorem length_received (step : Step) : step.received.length = step.requested.length := by
  cases step with
  | sort columns direction => simp [received, requested, length_lastDirected]
  | addColumns | setColumns | source | dataset | join | restrict => rfl

/-- A step that sorts by nothing is received like any other. -/
theorem received_eq (step : Step) :
    step.received = step.sorting?.toList.flatMap fun s => lastDirected s.columns s.direction := by
  cases step with
  | sort columns direction =>
    rw [received, sorting?]
    split
    · rename_i empty
      rw [empty]
      rfl
    · simp
  | addColumns | setColumns | source | dataset | join | restrict => rfl

end Step

variable {steps : List Step}

theorem flatMap_received :
    steps.flatMap Step.received =
      (finalSortings steps).flatMap fun s => lastDirected s.columns s.direction := by
  rw [finalSortings, List.filterMap_eq_flatMap_toList, List.flatMap_assoc]
  exact List.flatMap_congr fun step _ => step.received_eq

/-- What is received is what was requested if no descending step has several columns. -/
theorem received_eq_requested_iff :
    steps.flatMap Step.received = steps.flatMap Step.requested ↔
      ∀ columns, Step.sort columns .descending ∈ steps → columns.toList.length ≤ 1 := by
  rw [flatMap_eq_flatMap_iff fun step _ => step.length_received]
  constructor
  · intro same columns listed
    exact (lastDirected_eq_map_iff _ _).1 (same _ listed) rfl
  · intro single step listed
    cases step with
    | sort columns direction =>
      refine (lastDirected_eq_map_iff _ _).2 ?_
      rintro rfl
      exact single columns listed
    | addColumns | setColumns | source | dataset | join | restrict => rfl

/-- The sort columns of steps. -/
theorem isSortColumn_of_mem_sortings
    (plain : ∀ c ∈ steps.flatMap Step.requested, IsSortColumn c.1) :
    ∀ s ∈ (assemble steps).sortings, s.columns ≠ [] ∧ ∀ c ∈ s.columns, IsSortColumn c := by
  intro s hs
  obtain ⟨columns, direction, listed, nonempty, rfl⟩ := exists_step_of_mem_sortings hs
  exact ⟨nonempty, fun c hc =>
    plain (c, direction) (List.mem_flatMap.2 ⟨_, listed, List.mem_map_of_mem hc⟩)⟩

/-- **How the order of a SELECT is read.**  The ORDER BY list ends the text of a SELECT.  It is read
as the columns of its steps in their order, of which the last one of each step has the direction of
the step and the others are ascending.  That is what was requested exactly if no descending step
has several columns. -/
theorem readOrdering_body
    (plain : ∀ c ∈ steps.flatMap Step.requested, IsSortColumn c.1) :
    ∃ list,
      (assemble steps).body =
          { assemble steps with sortings := [] }.body ++
            (if list = "" then "" else " ORDER BY " ++ list) ∧
        readOrdering list = some (steps.flatMap Step.received) ∧
          (steps.flatMap Step.received = steps.flatMap Step.requested ↔
            ∀ columns, Step.sort columns .descending ∈ steps → columns.toList.length ≤ 1) := by
  have received : steps.flatMap Step.received =
      (assemble steps).sortings.flatMap fun s => lastDirected s.columns s.direction := by
    rw [flatMap_received, assemble_eq]
  have columns := isSortColumn_of_mem_sortings plain
  refine ⟨", ".intercalate ((assemble steps).sortings.map Sorting.sql), ?_, ?_,
    received_eq_requested_iff⟩
  · rw [body_eq_written, body_eq_written, written, written, if_pos rfl, String.append_empty]
    by_cases unsorted : (assemble steps).sortings = []
    · simp [unsorted]
    · rw [if_neg unsorted, if_neg (ordering_ne_empty unsorted columns)]
  · rw [received, readOrdering]
    by_cases unsorted : (assemble steps).sortings = []
    · rw [unsorted]
      rfl
    · rw [if_neg (ordering_ne_empty unsorted columns)]
      exact mapM_itemWords_sortings unsorted columns

/-- Several ascending columns, and a descending one. -/
def byNameAndAge : List Step :=
  [.source (.named "users"), .sortAscending (.many ["u.name", "id"]), .sortDescending (.one "age")]

theorem readOrdering_byNameAndAge :
    (∀ c ∈ byNameAndAge.flatMap Step.requested, IsSortColumn c.1) ∧
      ∃ list,
        (assemble byNameAndAge).body =
            { assemble byNameAndAge with sortings := [] }.body ++
              (if list = "" then "" else " ORDER BY " ++ list) ∧
          readOrdering list =
            some [("u.name", .ascending), ("id", .ascending), ("age", .descending)] := by
  have plain : ∀ c ∈ byNameAndAge.flatMap Step.requested, IsSortColumn c.1 := by decide
  obtain ⟨list, text, read, -⟩ := readOrdering_body plain
  exact ⟨plain, list, text, read⟩

/-- Two descending columns, of which one is read as ascending. -/
def byTwoDescending : List Step :=
  [.source (.named "users"), .sortDescending (.many ["a", "b"])]

theorem byTwoDescending_is_not_received :
    (∀ c ∈ byTwoDescending.flatMap Step.requested, IsSortColumn c.1) ∧
      (assemble byTwoDescending).body = "SELECT * FROM users ORDER BY " ++ "a, b DESC" ∧
        readOrdering "a, b DESC" = some [("a", .ascending), ("b", .descending)] ∧
          byTwoDescending.flatMap Step.requested = [("a", .descending), ("b", .descending)] :=
  ⟨by decide, by decide, by decide, by decide⟩

end SqlAssembly.Select
