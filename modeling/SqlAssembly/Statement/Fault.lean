/-!
# Faults of a statement

* `Fault` — `BuildError`: why a statement cannot be written; several faults make one.
* `Fault.combine` — `join`: the faults of a statement as one fault.
* `Fault.leaves` — `errors`: the single faults in it from left to right.
* `Fault.lacksTable` — `is_missing_table`: whether a missing table is among these.
* `Fault.message` — its wording as `Display` gives it; of several faults, one below the other
  (`join_messages`).
-/

set_option autoImplicit false

namespace SqlAssembly

/-- Why a statement cannot be written. -/
inductive Fault where
  /-- A table was given with an empty name. -/
  | unnamedTable
  /-- No table was set. -/
  | noTable
  /-- An insertion without rows. -/
  | noRows
  /-- An update that assigns nothing. -/
  | noAssignments
  /-- Several faults in the order in which they arose. -/
  | several (faults : List Fault)

namespace Fault

mutual

/-- The wording of a fault. -/
def message : Fault → String
  | unnamedTable => "empty table name"
  | noTable => "no table set"
  | noRows => "no values provided for insertion"
  | noAssignments => "no columns set for update"
  | several faults => "\n".intercalate (messages faults)

/-- The wording of each fault of a list. -/
def messages : List Fault → List String
  | [] => []
  | fault :: faults => message fault :: messages faults

end

mutual

/-- The single faults in a fault from left to right. -/
def leaves : Fault → List Fault
  | several faults => leavesOfAll faults
  | single => [single]

/-- The single faults in a list of faults from left to right. -/
def leavesOfAll : List Fault → List Fault
  | [] => []
  | fault :: faults => leaves fault ++ leavesOfAll faults

end

/-- Whether a fault is that no table was set. -/
def isNoTable : Fault → Bool
  | noTable => true
  | _ => false

/-- Whether a missing table is among the single faults in a fault. -/
def lacksTable (fault : Fault) : Bool := fault.leaves.any isNoTable

/-- A list of faults as one: nothing for none, a single fault as it is. -/
def combine : List Fault → Option Fault
  | [] => none
  | [fault] => some fault
  | faults => some (several faults)

theorem combine_eq_none_iff (faults : List Fault) : combine faults = none ↔ faults = [] := by
  match faults with
  | [] => simp [combine]
  | [_] => simp [combine]
  | _ :: _ :: _ => simp [combine]

theorem messages_eq_map (faults : List Fault) : messages faults = faults.map message := by
  induction faults with
  | nil => rw [messages, List.map_nil]
  | cons fault faults ih => rw [messages, ih, List.map_cons]

theorem leavesOfAll_eq_flatMap (faults : List Fault) :
    leavesOfAll faults = faults.flatMap leaves := by
  induction faults with
  | nil => rw [leavesOfAll, List.flatMap_nil]
  | cons fault faults ih => rw [leavesOfAll, ih, List.flatMap_cons]

theorem isNoTable_iff {fault : Fault} : fault.isNoTable = true ↔ fault = noTable := by
  cases fault <;> simp [isNoTable]

end Fault

end SqlAssembly
