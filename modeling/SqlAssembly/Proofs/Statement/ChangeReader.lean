import SqlAssembly.Proofs.Statement.Names

/-!
# Reading an UPDATE or a DELETE

The text of an UPDATE or a DELETE says all there is to say about it, as long as its names are plain
and no text value has a quote in it.  Its condition may be any text: it stands last, and what stands
in front of it leaves no quote open.

* `Change`, `Statement.change` — what an UPDATE or a DELETE says.
* `Update.body_eq_sentence`, `Delete.body_eq_sentence` — the statements as rows of words.
* `readAssignments` — the assignments at the start of some words: a comma says that there are more.
* `readChange` — reads a statement again.
* `readChange_sql` — this gives back what was written.
-/

set_option autoImplicit false

namespace SqlAssembly

/-! ## What a change says -/

/-- What an UPDATE or a DELETE says.  A DELETE assigns nothing. -/
structure Change where
  table : Option Table
  /-- The columns, each with its value as it is written. -/
  assignments : List (String × String)
  condition : Option String
  deriving DecidableEq, Repr

/-- A column with its value as it is written. -/
def Assignment.texts (a : Assignment) : String × String := (a.column, a.value.literal)

def Update.change (s : Update) : Change :=
  ⟨s.target.table, s.assignments.map Assignment.texts, s.condition.map Condition.text⟩

def Delete.change (s : Delete) : Change := ⟨s.target.table, [], s.condition.map Condition.text⟩

/-- What a statement says if it is an UPDATE or a DELETE. -/
def Statement.change : Statement → Option Change
  | update s => some s.change
  | delete s => some s.change
  | _ => none

/-! ## Changes as words -/

def Assignment.words (a : Assignment) : List String := [a.column, "=", a.value.literal]

theorem Assignment.sql_eq_sentence (a : Assignment) : a.sql = sentence a.words := by
  have sign : " = " = " " ++ "=" ++ " " := by decide
  simp only [sql, words, sentence, String.intercalate_cons_cons, String.intercalate_singleton, sign,
    String.append_assoc]

/-- The assignments of an UPDATE as words. -/
def Update.assignmentWords (assignments : List Assignment) : List String :=
  series (assignments.map Assignment.words)

theorem Update.assignmentWords_ne_nil {assignments : List Assignment}
    (nonempty : assignments ≠ []) : assignmentWords assignments ≠ [] :=
  series_ne_nil (by simpa using nonempty) (by simp [Assignment.words])

/-- An UPDATE as a row of words. -/
theorem Update.body_eq_sentence {s : Update} {table : Table} (target : s.target.table = some table)
    (nonempty : s.assignments ≠ []) :
    s.body = sentence ("UPDATE" :: (table.words ++ "SET" :: assignmentWords s.assignments) ++
      (restrictionRows lexemes s.condition).flatten) := by
  have assigned : ", ".intercalate (s.assignments.map Assignment.sql) =
      sentence (assignmentWords s.assignments) := by
    rw [assignmentWords, ← intercalate_sentence (by simp [Assignment.words]), List.map_map]
    congr 1
    exact List.map_congr_left fun a _ => a.sql_eq_sentence
  have parts : ["UPDATE"] ++ s.target.alone ++
      ["SET", ", ".intercalate (s.assignments.map Assignment.sql)] ++ restriction s.condition =
        ([["UPDATE"], table.words, ["SET"], assignmentWords s.assignments] ++
          restrictionRows lexemes s.condition).map sentence := by
    rw [Target.alone, target, restriction_eq s.condition sentence_lexemes, assigned,
      List.map_append]
    simp only [List.map_cons, List.map_nil, sentence_singleton, Table.sql_eq_sentence,
      List.cons_append, List.nil_append, Option.map_some, Option.toList_some]
  rw [body, parts, sentence_map_sentence, List.flatten_append]
  · simp
  · rw [List.forall_mem_append]
    exact ⟨by simp [Table.words_ne_nil, assignmentWords_ne_nil nonempty],
      ne_nil_of_mem_restrictionRows lexemes_ne_nil⟩

/-- A DELETE as a row of words. -/
theorem Delete.body_eq_sentence {s : Delete} {table : Table}
    (target : s.target.table = some table) :
    s.body = sentence ("DELETE" :: "FROM" :: table.words ++
      (restrictionRows lexemes s.condition).flatten) := by
  have start : "DELETE FROM" = sentence ["DELETE", "FROM"] := by decide
  have parts : ["DELETE FROM"] ++ s.target.alone ++ restriction s.condition =
      ([["DELETE", "FROM"], table.words] ++ restrictionRows lexemes s.condition).map sentence := by
    rw [Target.alone, target, restriction_eq s.condition sentence_lexemes, start, List.map_append]
    simp only [List.map_cons, List.map_nil, Table.sql_eq_sentence, List.cons_append,
      List.nil_append, Option.map_some, Option.toList_some]
  rw [body, parts, sentence_map_sentence, List.flatten_append]
  · simp
  · rw [List.forall_mem_append]
    exact ⟨by simp [Table.words_ne_nil], ne_nil_of_mem_restrictionRows lexemes_ne_nil⟩

/-- The words of a statement with a condition at its end.  The condition may leave a quote open. -/
theorem lexemes_restricted {ws : List String} (nonempty : ws ≠ []) (h : ∀ w ∈ ws, IsLexeme w)
    (condition : Option Condition) :
    lexemes (sentence (ws ++ (restrictionRows lexemes condition).flatten)) =
      ws ++ (restrictionRows lexemes condition).flatten := by
  cases condition with
  | none => simpa [restrictionRows] using lexemes_sentence nonempty h
  | some c =>
    -- no quote is open in front of the condition, so its words are those it has alone
    have front : ∀ w ∈ ws ++ ["WHERE"], IsLexeme w := by
      rw [List.forall_mem_append, List.forall_mem_singleton]
      exact ⟨h, by decide⟩
    have rest : (restrictionRows lexemes (some c)).flatten = ["WHERE"] ++ lexemes c.text := by
      simp [restrictionRows]
    rw [rest, ← List.append_assoc, sentence_append (by simp) (lexemes_ne_nil c.text),
      sentence_lexemes, lexemes_append (leavesOpen_sentence front),
      lexemes_sentence (by simp) front]

/-! ## Reading a change -/

/-- The assignments that some words start with, and the words behind them. -/
def readAssignments : List String → List (String × String) × List String
  | column :: _ :: value :: ws =>
    if endsInComma value then
      ((column, bare value) :: (readAssignments ws).1, (readAssignments ws).2)
    else ([(column, value)], ws)
  | ws => ([], ws)

/-- What an UPDATE says behind its first word. -/
def readUpdate (ws : List String) : Change :=
  let target := readTable ws
  let assigned := readAssignments target.2.tail
  ⟨target.1, assigned.1, readRestriction assigned.2⟩

/-- What a DELETE says behind its first two words. -/
def readDelete (ws : List String) : Change :=
  let target := readTable ws
  ⟨target.1, [], readRestriction target.2⟩

/-- What words say as an UPDATE or a DELETE. -/
def readWords : List String → Option Change
  | "UPDATE" :: ws => some (readUpdate ws)
  | "DELETE" :: "FROM" :: ws => some (readDelete ws)
  | _ => none

/-- What a text says as an UPDATE or a DELETE. -/
def readChange (sql : String) : Option Change := readWords (lexemes (chop sql))

theorem readAssignments_words {assignments : List Assignment} (nonempty : assignments ≠ [])
    (h : ∀ a ∈ assignments, IsAtom a.value.literal) (rest : List String) :
    readAssignments (Update.assignmentWords assignments ++ rest) =
      (assignments.map Assignment.texts, rest) := by
  induction assignments with
  | nil => exact absurd rfl nonempty
  | cons a assignments ih =>
    rw [List.forall_mem_cons] at h
    cases assignments with
    | nil =>
      have last : endsInComma a.value.literal = false := h.1.not_endsInComma
      simp [Update.assignmentWords, series, Assignment.words, readAssignments, last,
        Assignment.texts]
    | cons b assignments =>
      have words : Update.assignmentWords (a :: b :: assignments) ++ rest =
          a.column :: "=" :: (a.value.literal ++ ",") ::
            (Update.assignmentWords (b :: assignments) ++ rest) := rfl
      rw [words, readAssignments, if_pos (endsInComma_comma _), bare_comma,
        ih (List.cons_ne_nil _ _) h.2]
      rfl

theorem Update.isLexeme_of_mem_assignmentWords {assignments : List Assignment}
    (h : ∀ p ∈ assignments.flatMap Assignment.parts, p.IsPlain [] []) :
    ∀ w ∈ assignmentWords assignments, IsLexeme w := by
  refine forall_mem_series (fun _ => IsLexeme.comma) ?_
  rw [List.forall_mem_flatten, List.forall_mem_map]
  intro a ha w hw
  have plain : ∀ p ∈ a.parts, p.IsPlain [] [] := fun p hp => h p (List.mem_flatMap.2 ⟨a, ha, hp⟩)
  simp only [Assignment.words, List.mem_cons, List.not_mem_nil, or_false] at hw
  rcases hw with rfl | rfl | rfl
  · exact (plain (.name a.column) (by simp [Assignment.parts])).1.isAtom.isLexeme
  · decide
  · exact (Value.isAtom_literal (plain (.value a.value) (by simp [Assignment.parts]))).isLexeme

/-- The text of an UPDATE with a table and an assignment says what was put into it. -/
theorem Update.readChange_body {s : Update} {table : Table} (target : s.target.table = some table)
    (nonempty : s.assignments ≠ []) (h : ∀ p ∈ s.parts, p.IsPlain [] []) :
    readChange (s.body ++ ";") = some s.change := by
  have assigned : ∀ p ∈ s.assignments.flatMap Assignment.parts, p.IsPlain [] [] := fun p hp =>
    h p (List.mem_append_left _ (List.mem_append_right _ hp))
  have literals : ∀ a ∈ s.assignments, IsAtom a.value.literal := fun a ha =>
    Value.isAtom_literal (assigned (.value a.value)
      (List.mem_flatMap.2 ⟨a, ha, by simp [Assignment.parts]⟩))
  have named : ∀ p ∈ table.parts, p.IsPlain [] [] := fun p hp =>
    h p (by simp [parts, Target.parts, target, hp])
  have whole : ∀ w ∈ "UPDATE" :: (table.words ++ "SET" :: assignmentWords s.assignments),
      IsLexeme w := by
    rw [List.forall_mem_cons, List.forall_mem_append, List.forall_mem_cons]
    exact ⟨by decide, Table.isLexeme_of_mem_words named, by decide,
      isLexeme_of_mem_assignmentWords assigned⟩
  rw [readChange, chop_semicolon, body_eq_sentence target nonempty,
    lexemes_restricted (List.cons_ne_nil _ _) whole, List.cons_append, List.append_assoc,
    List.cons_append, readWords, readUpdate, readTable_words table (by simp), List.tail_cons,
    readAssignments_words nonempty literals, readRestriction_flatten s.condition sentence_lexemes,
    change, target]

/-- The text of a DELETE with a table says what was put into it. -/
theorem Delete.readChange_body {s : Delete} {table : Table} (target : s.target.table = some table)
    (h : ∀ p ∈ s.parts, p.IsPlain [] []) : readChange (s.body ++ ";") = some s.change := by
  have named : ∀ p ∈ table.parts, p.IsPlain [] [] := fun p hp =>
    h p (by simp [parts, Target.parts, target, hp])
  have whole : ∀ w ∈ "DELETE" :: "FROM" :: table.words, IsLexeme w := by
    rw [List.forall_mem_cons, List.forall_mem_cons]
    exact ⟨by decide, by decide, Table.isLexeme_of_mem_words named⟩
  have first : (restrictionRows lexemes s.condition).flatten.head? ≠ some "AS" := by
    cases s.condition <;> simp [restrictionRows]
  rw [readChange, chop_semicolon, body_eq_sentence target,
    lexemes_restricted (List.cons_ne_nil _ _) whole, List.cons_append, List.cons_append, readWords,
    readDelete, readTable_words table first, readRestriction_flatten s.condition sentence_lexemes,
    change, target]

/-- An UPDATE without a fault has a table and assigns something. -/
theorem Update.exists_table {s : Update} (h : s.faults = []) :
    ∃ table, s.target.table = some table ∧ s.assignments ≠ [] := by
  unfold faults at h
  cases found : s.target.table with
  | none =>
    rw [found] at h
    cases h
  | some table =>
    refine ⟨table, rfl, ?_⟩
    intro unassigned
    rw [found, unassigned] at h
    cases (List.append_eq_nil_iff.1 h).2

/-- A DELETE without a fault has its table. -/
theorem Delete.table_of_faultless {table : Table} {steps : List Step}
    (h : (assemble table steps).faults = []) :
    (assemble table steps).target.table = some table := by
  rw [faults, target_assemble, Target.refusals, Target.refused_set] at h
  rw [target_assemble, Target.table_set]
  split at h
  · rename_i named
    exact if_pos named
  · cases h

/-- **The text of an UPDATE or a DELETE determines its table, assignments and condition.**  They can
be read off it, so two of these statements with the same text have the same; and none with a
condition has the text of one without. -/
theorem readChange_sql {h : History} {change : Change} (changes : h.statement.change = some change)
    (plain : ∀ p ∈ h.parts, p.IsPlain [] []) {sql : String} (written : h.statement.sql = .ok sql) :
    readChange sql = some change ∧
      ∀ (h' : History) (change' : Change), h'.statement.change = some change' →
        (∀ p ∈ h'.parts, p.IsPlain [] []) → h'.statement.sql = .ok sql → change' = change := by
  have read : ∀ (h : History) (change : Change), h.statement.change = some change →
      (∀ p ∈ h.parts, p.IsPlain [] []) → h.statement.sql = .ok sql →
      readChange sql = some change := by
    intro h change changes plain written
    obtain ⟨faultless, text⟩ := (Statement.sql_eq_ok_iff _ _).1 written
    have kept : ∀ p ∈ h.statement.parts, p.IsPlain [] [] := fun p hp =>
      plain p (History.mem_parts_of_statement hp)
    rw [text, ← changes]
    cases h with
    | update table steps =>
      obtain ⟨found, target, assigned⟩ := Update.exists_table faultless
      exact Update.readChange_body target assigned kept
    | delete table steps =>
      exact Delete.readChange_body (Delete.table_of_faultless faultless) kept
    | select | insert | truncate => cases changes
  refine ⟨read h change changes plain written, ?_⟩
  intro h' change' changes' plain' written'
  have same := (read h' change' changes' plain' written').symm.trans
    (read h change changes plain written)
  exact Option.some.inj same

namespace Change

/-- A text value that looks like further assignments and a condition, and a condition that leaves a
quote open. -/
def assignmentInText : History :=
  .update (some ((Table.named "fruit").shownAs "f"))
    [.assign "f.name" (.text "a, b = 1 WHERE c"), .assign "stock" (.int (-3)),
      .restrict (.leaf (.verbatim "note = 'it's"))]

/-- A deletion whose condition was replaced.  The new one has the word that begins a condition in a
text. -/
def restrictedTwice : History :=
  .delete ((Table.named "fruit").shownAs "f")
    [.restrict (.leaf (.verbatim "stale")), .restrict (.leaf (.verbatim "note = 'a WHERE b'"))]

def unrestricted : History := .delete (.named "fruit") []

theorem readChange_sql_assignmentInText :
    ((∀ p ∈ assignmentInText.parts, p.IsPlain [] []) ∧
      readChange
          "UPDATE fruit AS f SET f.name = 'a, b = 1 WHERE c', stock = -3 WHERE note = 'it's;" =
        some ⟨some ⟨"fruit", "f"⟩, [("f.name", "'a, b = 1 WHERE c'"), ("stock", "-3")],
          some "note = 'it's"⟩) ∧
    ((∀ p ∈ restrictedTwice.parts, p.IsPlain [] []) ∧
      readChange "DELETE FROM fruit AS f WHERE note = 'a WHERE b';" =
        some ⟨some ⟨"fruit", "f"⟩, [], some "note = 'a WHERE b'"⟩) ∧
    (∀ p ∈ unrestricted.parts, p.IsPlain [] []) ∧
      readChange "DELETE FROM fruit;" = some ⟨some ⟨"fruit", "fruit"⟩, [], none⟩ := by
  have updating : ∀ p ∈ assignmentInText.parts, p.IsPlain [] [] := by decide
  have restricted : ∀ p ∈ restrictedTwice.parts, p.IsPlain [] [] := by decide
  have whole : ∀ p ∈ unrestricted.parts, p.IsPlain [] [] := by decide
  have updated : assignmentInText.statement.sql =
      .ok "UPDATE fruit AS f SET f.name = 'a, b = 1 WHERE c', stock = -3 WHERE note = 'it's;" := rfl
  have selected : restrictedTwice.statement.sql =
      .ok "DELETE FROM fruit AS f WHERE note = 'a WHERE b';" := rfl
  have deleted : unrestricted.statement.sql = .ok "DELETE FROM fruit;" := rfl
  exact ⟨⟨updating, (readChange_sql rfl updating updated).1⟩,
    ⟨restricted, (readChange_sql rfl restricted selected).1⟩,
    whole, (readChange_sql rfl whole deleted).1⟩

end Change

end SqlAssembly
