/-!
# Grouped arguments

A clause takes its columns or values one by one, as a sequence, or as a group of such arguments,
to any depth: this models `IntoColumns` and `IntoValues`.

* `Arguments` — the shapes an argument can have.
* `Arguments.toList` — the items from left to right, which is all that a clause sees.
* `Arguments.push` — `push_columns` and `push_values`: the items put behind those that are already
  there.  Behind nothing, these are `into_columns` and `into_values`.
-/

set_option autoImplicit false

namespace SqlAssembly

/-- An argument of a clause. -/
inductive Arguments (α : Type) where
  | one (item : α)
  | many (items : List α)
  | group (parts : List (Arguments α))

namespace Arguments

variable {α : Type}

/-- The argument without any item. -/
def none : Arguments α := many []

mutual

/-- The items of an argument from left to right. -/
def toList : Arguments α → List α
  | one item => [item]
  | many items => items
  | group parts => partsToList parts

/-- The items of several arguments from left to right. -/
def partsToList : List (Arguments α) → List α
  | [] => []
  | part :: parts => toList part ++ partsToList parts

end

mutual

/-- The items already there, followed by those of the argument. -/
def push (present : List α) : Arguments α → List α
  | one item => present ++ [item]
  | many items => present ++ items
  | group parts => pushParts present parts

/-- The items already there, followed by those of each argument in turn. -/
def pushParts (present : List α) : List (Arguments α) → List α
  | [] => present
  | part :: parts => pushParts (push present part) parts

end

mutual

/-- Nothing that was there is touched, and the new items follow in their order. -/
theorem push_eq (present : List α) : ∀ a : Arguments α, push present a = present ++ a.toList
  | one _ => by simp [push, toList]
  | many _ => by simp [push, toList]
  | group parts => by simp [push, toList, pushParts_eq present parts]

theorem pushParts_eq (present : List α) :
    ∀ parts : List (Arguments α), pushParts present parts = present ++ partsToList parts
  | [] => by simp [pushParts, partsToList]
  | part :: parts => by
    rw [pushParts, push_eq present part, pushParts_eq _ parts, partsToList, List.append_assoc]

end

end Arguments

end SqlAssembly
