import Mathlib.Data.List.Basic
import SqlAssembly.Statement.Fault

/-!
# The single faults of a fault

However faults are put together, the single faults among them stay, in their order.  The wording of
a fault has a line for each of them, and an empty line for each empty list of faults in it.

* `Fault.Occurs` — a fault stands somewhere in another.
* `Fault.leaves_of_combine` — several faults made one have the single faults of each in turn.
* `Fault.lacksTable_iff` — a missing table is among the single faults.
* `Fault.lines`, `Fault.filter_lines`, `Fault.nil_mem_lines_iff` — the lines of a wording: those of
  the single faults, and empty ones.
* `Fault.combine_keeps_leaves` — what combining faults keeps.
-/

set_option autoImplicit false

namespace SqlAssembly

namespace Fault

/-- Whether a fault is a list of others. -/
def isSeveral : Fault → Bool
  | several _ => true
  | _ => false

/-- `part` is `whole`, or stands in it at any depth. -/
inductive Occurs (part : Fault) : (whole : Fault) → Prop
  | here : Occurs part part
  | inside {faults : List Fault} {fault : Fault} (listed : fault ∈ faults)
    (deeper : Occurs part fault) : Occurs part (several faults)

/-- Induction on how a fault is put together. -/
@[elab_as_elim]
theorem parts_induction {P : Fault → Prop} (fault : Fault)
    (single : ∀ fault, fault.isSeveral = false → P fault)
    (several : ∀ faults, (∀ fault ∈ faults, P fault) → P (several faults)) : P fault :=
  match fault with
  | .several faults => several faults fun part _ => parts_induction part single several
  | .unnamedTable => single _ rfl
  | .noTable => single _ rfl
  | .noRows => single _ rfl
  | .noAssignments => single _ rfl

theorem not_occurs_of_single {part fault : Fault} (h : fault.isSeveral = false)
    (compound : part.isSeveral = true) : ¬ Occurs part fault := by
  intro found
  cases found with
  | here => cases h.symm.trans compound
  | inside => cases h

theorem occurs_several_iff {part : Fault} {faults : List Fault} (other : part ≠ several faults) :
    Occurs part (several faults) ↔ ∃ fault ∈ faults, Occurs part fault := by
  constructor
  · intro found
    cases found with
    | here => exact absurd rfl other
    | inside listed deeper => exact ⟨_, listed, deeper⟩
  · rintro ⟨fault, listed, deeper⟩
    exact .inside listed deeper

/-! ## Single faults -/

theorem leaves_of_single {fault : Fault} (h : fault.isSeveral = false) :
    fault.leaves = [fault] := by
  cases fault with
  | several => cases h
  | _ => rw [leaves]; exact nofun

theorem leaves_several (faults : List Fault) : (several faults).leaves = faults.flatMap leaves := by
  rw [leaves, leavesOfAll_eq_flatMap]

theorem isSeveral_of_mem_leaves {leaf fault : Fault} (h : leaf ∈ fault.leaves) :
    leaf.isSeveral = false := by
  induction fault using parts_induction with
  | single fault own =>
    rw [leaves_of_single own, List.mem_singleton] at h
    rw [h, own]
  | several faults ih =>
    rw [leaves_several] at h
    obtain ⟨fault, listed, found⟩ := List.mem_flatMap.1 h
    exact ih fault listed found

/-- A missing table is among the single faults. -/
theorem lacksTable_iff (fault : Fault) : fault.lacksTable = true ↔ noTable ∈ fault.leaves := by
  simp only [lacksTable, List.any_eq_true, isNoTable_iff, exists_eq_right]

theorem leaves_of_combine {faults : List Fault} {fault : Fault} (h : combine faults = some fault) :
    fault.leaves = faults.flatMap leaves := by
  match faults with
  | [] => cases h
  | [single] =>
    cases h
    exact (List.flatMap_singleton ..).symm
  | first :: second :: rest =>
    cases h
    exact leaves_several _

/-! ## The lines of a wording -/

/-- The lines of the wording of a fault. -/
def lines (fault : Fault) : List (List Char) := fault.message.toList.splitOn '\n'

theorem intercalate_lines (fault : Fault) : ['\n'].intercalate fault.lines = fault.message.toList :=
  List.intercalate_splitOn '\n'

/-- The wording of a single fault is a line. -/
theorem message_of_single {fault : Fault} (h : fault.isSeveral = false) :
    fault.message.toList ≠ [] ∧ '\n' ∉ fault.message.toList := by
  cases fault with
  | several => cases h
  | _ => rw [message]; decide

theorem lines_of_single {fault : Fault} (h : fault.isSeveral = false) :
    fault.lines = [fault.message.toList] :=
  List.splitOn_eq_singleton (message_of_single h).2

/-- The lines of texts that stand one below the other. -/
theorem splitOn_intercalate_eq_flatMap {c : Char} {texts : List (List Char)} (h : texts ≠ []) :
    ([c].intercalate texts).splitOn c = texts.flatMap (·.splitOn c) := by
  induction texts with
  | nil => exact absurd rfl h
  | cons first rest ih =>
    cases rest with
    | nil => simp
    | cons second rest =>
      rw [List.intercalate_cons_cons, List.append_assoc, List.singleton_append,
        List.splitOn_append_cons_self, ih (List.cons_ne_nil _ _), ← List.flatMap_cons]

/-- No faults are an empty line. -/
theorem lines_several_nil : (several []).lines = [[]] := by
  rw [lines, message, messages, String.intercalate_nil]
  rfl

theorem lines_several {faults : List Fault} (h : faults ≠ []) :
    (several faults).lines = faults.flatMap lines := by
  have newline : "\n".toList = ['\n'] := by decide
  have texts : (faults.map message).map String.toList ≠ [] := by simpa using h
  rw [lines, message, messages_eq_map, String.toList_intercalate, newline,
    splitOn_intercalate_eq_flatMap texts, List.flatMap_map, List.flatMap_map]
  rfl

/-- The lines that are not empty are those of the single faults. -/
theorem filter_lines (fault : Fault) :
    fault.lines.filter (fun line => line ≠ []) =
      fault.leaves.map fun leaf => leaf.message.toList := by
  induction fault using parts_induction with
  | single fault own =>
    have filled := (message_of_single own).1
    rw [lines_of_single own, leaves_of_single own]
    simp [filled]
  | several faults ih =>
    by_cases empty : faults = []
    · subst empty
      rw [lines_several_nil, leaves_several]
      rfl
    · rw [lines_several empty, leaves_several, List.filter_flatMap, List.map_flatMap]
      exact List.flatMap_congr ih

/-- An empty line stands for no faults at some place. -/
theorem nil_mem_lines_iff (fault : Fault) : [] ∈ fault.lines ↔ Occurs (several []) fault := by
  induction fault using parts_induction with
  | single fault own =>
    rw [lines_of_single own, List.mem_singleton]
    exact iff_of_false (message_of_single own).1.symm (not_occurs_of_single own rfl)
  | several faults ih =>
    by_cases empty : faults = []
    · subst empty
      rw [lines_several_nil]
      exact iff_of_true (List.mem_singleton_self _) .here
    · have other : several [] ≠ several faults := fun same => empty (several.inj same).symm
      rw [lines_several empty, occurs_several_iff other, List.mem_flatMap]
      exact exists_congr fun fault => and_congr_right fun listed => ih fault listed

/-- The wording of a fault has the wordings of its single faults for lines exactly when an empty
list of faults stands nowhere in it. -/
theorem message_eq_iff {fault : Fault} (nonempty : fault.leaves ≠ []) :
    fault.message = "\n".intercalate (fault.leaves.map message) ↔ ¬ Occurs (several []) fault := by
  have newline : "\n".toList = ['\n'] := by decide
  have solid : ∀ line ∈ fault.leaves.map fun leaf => leaf.message.toList, '\n' ∉ line :=
    List.forall_mem_map.2 fun leaf found => (message_of_single (isSeveral_of_mem_leaves found)).2
  have worded : (fault.leaves.map fun leaf => leaf.message.toList) ≠ [] := by
    simpa using nonempty
  have texts : (fault.leaves.map message).map String.toList =
      fault.leaves.map fun leaf => leaf.message.toList := List.map_map
  calc fault.message = "\n".intercalate (fault.leaves.map message)
      ↔ fault.lines = fault.leaves.map fun leaf => leaf.message.toList := by
        rw [← String.toList_inj, String.toList_intercalate, newline, texts]
        constructor
        · intro same
          rw [lines, same, List.splitOn_intercalate '\n' solid worded]
        · intro same
          rw [← same, intercalate_lines]
    _ ↔ ∀ line ∈ fault.lines, line ≠ [] := by
        rw [← filter_lines, eq_comm, List.filter_eq_self]
        simp only [decide_eq_true_eq]
    _ ↔ ¬ Occurs (several []) fault := by
        rw [← nil_mem_lines_iff, List.forall_mem_ne']

/-- **Combining faults loses none of them.**  Nothing comes of no faults.  Otherwise the single
faults of the combined one are those of each fault in turn, none of these is a list, and it lacks a
table when one of the faults does.  A fault lacks a table when a missing table is among its single
faults.  The wording of a fault with a single fault in it is that of its single faults, one below
the other, exactly when an empty list of faults occurs nowhere in it. -/
theorem combine_keeps_leaves (faults : List Fault) :
    (combine faults = none ↔ faults = []) ∧
      (∀ fault, combine faults = some fault →
        fault.leaves = faults.flatMap leaves ∧
          (∀ leaf ∈ fault.leaves, leaf.isSeveral = false) ∧
          (fault.lacksTable = true ↔ ∃ own ∈ faults, own.lacksTable = true)) ∧
      (∀ fault : Fault, fault.lacksTable = true ↔ noTable ∈ fault.leaves) ∧
      ∀ fault : Fault, fault.leaves ≠ [] →
        (fault.message = "\n".intercalate (fault.leaves.map message) ↔
          ¬ Occurs (several []) fault) := by
  refine ⟨combine_eq_none_iff faults, fun fault combined => ?_, lacksTable_iff,
    fun _ => message_eq_iff⟩
  have kept := leaves_of_combine combined
  refine ⟨kept, fun _ => isSeveral_of_mem_leaves, ?_⟩
  rw [lacksTable_iff, kept, List.mem_flatMap]
  exact exists_congr fun own => and_congr_right fun _ => (lacksTable_iff own).symm

/-- A list without faults leaves an empty line. -/
theorem combine_keeps_leaves_emptyInside :
    (several [several [several [], noTable], noRows]).leaves = [noTable, noRows] ∧
      (several [several [several [], noTable], noRows]).lacksTable = true ∧
      (several [several [several [], noTable], noRows]).message ≠
        "no table set\nno values provided for insertion" := by
  obtain ⟨-, kept, missing, worded⟩ := combine_keeps_leaves [several [several [], noTable], noRows]
  have leaves : (several [several [several [], noTable], noRows]).leaves = [noTable, noRows] := by
    rw [(kept _ rfl).1]
    simp [Fault.leaves, leavesOfAll]
  have texts : [noTable, noRows].map message =
      ["no table set", "no values provided for insertion"] := by
    simp [message]
  have inside : Occurs (several []) (several [several [several [], noTable], noRows]) :=
    .inside (List.mem_cons_self ..) (.inside (List.mem_cons_self ..) .here)
  refine ⟨leaves, (missing _).2 (leaves ▸ List.mem_cons_self ..), fun same => ?_⟩
  refine (worded _ (by rw [leaves]; exact List.cons_ne_nil _ _)).1 ?_ inside
  rw [leaves, texts, same]
  decide

end Fault

end SqlAssembly
