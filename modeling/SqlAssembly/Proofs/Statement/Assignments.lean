import Mathlib.Data.List.Nodup
import SqlAssembly.Proofs.Statement.ChangeHistory

/-!
# Which assignments an UPDATE keeps

However often columns are assigned, an UPDATE keeps one assignment to each of them: the last one,
in the place of the first.

* `Assignment.lastTo`, `Assignment.settled` — the assignments that count, read off all that were
  made.
* `Assignment.Settles` — what the kept assignments have to do with those that were made; one more
  assignment preserves it (`Settles.put`), and so do any number of them (`settles_putAll`).
* `Assignment.put_comm` — when the order of two assignments makes no difference.
* `Update.settles_assemble` — the assignments of an UPDATE after any steps.
-/

set_option autoImplicit false

namespace SqlAssembly

namespace Assignment

/-! ## The assignments that count -/

/-- The last of the assignments to a column. -/
def lastTo (given : List Assignment) (column : String) : Option Assignment :=
  (given.filter fun a => a.column = column).getLast?

/-- Of each column the last assignment to it, in the order in which the columns came first. -/
def settled (given : List Assignment) : List Assignment :=
  (given.map column).eraseDups.filterMap (lastTo given)

/-- What is left of assignments that were made one after the other. -/
structure Settles (given assignments : List Assignment) : Prop where
  /-- No column is assigned twice. -/
  distinct : (assignments.map column).Nodup
  /-- The columns are all those that were assigned, each in the place of its first assignment. -/
  order : assignments.map column = (given.map column).eraseDups
  /-- Each column has the value of its last assignment. -/
  last : ∀ a ∈ assignments, lastTo given a.column = some a

theorem lastTo_concat (given : List Assignment) (new : Assignment) (column : String) :
    lastTo (given ++ [new]) column = if new.column = column then some new
      else lastTo given column := by
  unfold lastTo
  rw [List.filter_append]
  by_cases same : new.column = column
  · rw [List.filter_cons_of_pos (by simpa using same), List.filter_nil, List.getLast?_concat,
      if_pos same]
  · rw [List.filter_cons_of_neg (by simpa using same), List.filter_nil, List.append_nil,
      if_neg same]

/-- A further item is new or leaves the list without repetitions as it is. -/
theorem eraseDups_concat (columns : List String) (new : String) :
    (columns ++ [new]).eraseDups =
      if new ∈ columns then columns.eraseDups else columns.eraseDups ++ [new] := by
  rw [List.eraseDups_append]
  split
  · rename_i old
    simp [List.removeAll, old]
  · rename_i unseen
    simp [List.removeAll, unseen, List.eraseDups_cons]

/-- The assignments that count are determined by what was given. -/
theorem Settles.eq_settled {given assignments : List Assignment} (h : Settles given assignments) :
    assignments = settled given := by
  have kept : assignments.filterMap (fun a => lastTo given a.column) = assignments := by
    rw [List.filterMap_congr h.last, List.filterMap_some]
  rw [settled, ← h.order, List.filterMap_map]
  exact kept.symm

/-! ## One more assignment -/

variable {given assignments : List Assignment} {new : Assignment}

/-- Where no column is assigned twice, assigning one leaves the others alone. -/
theorem eq_or_mem_of_mem_put (distinct : (assignments.map column).Nodup) {a : Assignment}
    (h : a ∈ put new assignments) : a = new ∨ a ∈ assignments ∧ a.column ≠ new.column := by
  induction assignments with
  | nil => exact Or.inl (List.mem_singleton.1 h)
  | cons b rest ih =>
    rw [List.map_cons, List.nodup_cons] at distinct
    unfold put at h
    split at h
    · rename_i same
      rcases List.mem_cons.1 h with rfl | later
      · exact Or.inl rfl
      · refine Or.inr ⟨List.mem_cons_of_mem b later, ?_⟩
        intro again
        rw [same, ← again] at distinct
        exact distinct.1 (List.mem_map_of_mem later)
    · rename_i other
      rcases List.mem_cons.1 h with rfl | later
      · exact Or.inr ⟨List.mem_cons_self, other⟩
      · rcases ih distinct.2 later with rfl | ⟨found, differs⟩
        · exact Or.inl rfl
        · exact Or.inr ⟨List.mem_cons_of_mem b found, differs⟩

theorem nodup_columns_put (distinct : (assignments.map column).Nodup) :
    ((put new assignments).map column).Nodup := by
  rw [columns_put]
  split
  · exact distinct
  · rename_i unseen
    rw [List.nodup_append_comm, List.singleton_append, List.nodup_cons]
    exact ⟨unseen, distinct⟩

/-- One more assignment takes the place of an earlier one to its column, or comes last. -/
theorem Settles.put (h : Settles given assignments) :
    Settles (given ++ [new]) (put new assignments) where
  distinct := nodup_columns_put h.distinct
  order := by
    rw [columns_put, List.map_append, List.map_singleton, eraseDups_concat, h.order]
    simp only [List.mem_eraseDups]
  last := by
    intro a found
    rw [lastTo_concat]
    rcases eq_or_mem_of_mem_put h.distinct found with rfl | ⟨old, differs⟩
    · exact if_pos rfl
    · rw [if_neg differs.symm, h.last a old]

/-- Any number of assignments settles like this. -/
theorem settles_putAll (given : List Assignment) : Settles given (putAll [] given) := by
  -- from the end of the list, since each assignment counts against all that came before it
  induction given using List.reverseRecOn with
  | nil => exact ⟨List.nodup_nil, rfl, List.forall_mem_nil _⟩
  | append_singleton given new ih =>
    rw [putAll_append]
    exact ih.put

/-- Two columns can be assigned in either order if the place of one of them is known already. -/
theorem put_comm {first second : Assignment} (differ : first.column ≠ second.column)
    (present : first.column ∈ assignments.map column) :
    Assignment.put second (Assignment.put first assignments) =
      Assignment.put first (Assignment.put second assignments) := by
  induction assignments with
  | nil => cases present
  | cons a rest ih =>
    -- whichever column is met first keeps this place, and the other one goes on behind it
    by_cases isFirst : a.column = first.column
    · simp only [Assignment.put, isFirst, differ, if_true, if_false]
    · by_cases isSecond : a.column = second.column
      · simp only [Assignment.put, isSecond, differ.symm, if_true, if_false]
      · have later : first.column ∈ rest.map column := by
          rw [List.map_cons, List.mem_cons] at present
          exact present.resolve_left fun same => isFirst same.symm
        simp only [Assignment.put, isFirst, isSecond, if_false, ih later]

end Assignment

namespace Update

open Assignment

/-- **The assignments of an UPDATE are a map in the order of insertion.**  Of what was given since
the assignments were last replaced, each column is kept once, in its first place and with its last
value, and the statement says just this.  Replacing the assignments is the same as dropping them
and making the others one by one; and two columns can be assigned in either order if one of them is
there already. -/
theorem settles_assemble {table : Option Table} {steps : List Step} {s : Update}
    (assembled : s = assemble (table.elim {} start) steps) :
    Settles (finalAssignments steps) s.assignments ∧
      s.body = sentence (["UPDATE"] ++ s.target.alone ++
        ["SET", ", ".intercalate ((settled (finalAssignments steps)).map sql)] ++
          restriction s.condition) ∧
      (∀ news : List Assignment, s.assignAll news =
        assemble { s with assignments := [] } (news.map fun a => .assign a.column a.value)) ∧
      ∀ (c d : String) (v w : Value), c ∈ s.assignments.map column → c ≠ d →
        (s.assign c v).assign d w = (s.assign d w).assign c v := by
  have empty : (table.elim {} start).assignments = [] := by cases table <;> rfl
  have settles : Settles (finalAssignments steps) s.assignments := by
    rw [assembled, assignments_assemble empty]
    exact settles_putAll _
  refine ⟨settles, ?_, ?_, ?_⟩
  · rw [← settles.eq_settled]
    rfl
  · intro news
    rw [assignAll_eq_foldl, assemble, List.foldl_map]
    rfl
  · intro c d v w present differ
    have same := @put_comm s.assignments ⟨c, v⟩ ⟨d, w⟩ differ present
    exact congrArg (fun assignments => { s with assignments }) same

/-- Assignments that are replaced, then a column twice among the new ones, and a third time by its
table and its name. -/
def restocking : List Step :=
  [.assign "note" (.text "sold out"),
    .assignAll [⟨"f.stock", .int 1⟩, ⟨"name", .text "fig"⟩, ⟨"f.stock", .int 2⟩],
    .restrict (.leaf (.verbatim "id = 7")), .assign "price" .null,
    .target ((Table.named "fruit").shownAs "f"),
    .assign (((Table.named "fruit").shownAs "f").column "stock").text (.int 3)]

def restocked : Update := assemble ((none : Option Table).elim {} start) restocking

theorem settles_assemble_restocking :
    Settles (finalAssignments restocking)
        [⟨"f.stock", .int 3⟩, ⟨"name", .text "fig"⟩, ⟨"price", .null⟩] ∧
      restocked.body =
        "UPDATE fruit AS f SET f.stock = 3, name = 'fig', price = NULL WHERE id = 7" ∧
        (restocked.assign "name" (.text "kiwi")).assign "weight" (.int 80) =
          (restocked.assign "weight" (.int 80)).assign "name" (.text "kiwi") := by
  have kept : restocked.assignments =
      [⟨"f.stock", .int 3⟩, ⟨"name", .text "fig"⟩, ⟨"price", .null⟩] := by decide
  have text : restocked.body =
      "UPDATE fruit AS f SET f.stock = 3, name = 'fig', price = NULL WHERE id = 7" := rfl
  obtain ⟨settles, -, -, commutes⟩ :=
    @settles_assemble none restocking restocked rfl
  rw [kept] at settles
  exact ⟨settles, text, commutes "name" "weight" _ _ (by decide) (by decide)⟩

end Update

end SqlAssembly
