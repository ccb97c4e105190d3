import Mathlib.Data.List.Forall2
import SqlAssembly.Proofs.Declaration.Entries

/-!
# How attributes share their entries

The options of a record or a field depend on the entries of its attributes taken one behind the
other, and not on which attribute holds which entry.

* `Attribute.Gives` — the entries that an attribute gives, told by the grammar.
* `Attribute.gives_iff` — an attribute gives entries exactly when it is well-formed, and then in one
  way only.
* `allEntries_filter_isOwn` — attributes with other paths do not count, whatever they hold.
* `readOptions_of_gives` — the options of attributes that give entries.
* `readOptions_merges` — which attributes have options, and what these do not depend on.
-/

set_option autoImplicit false

namespace SqlAssembly

namespace Attribute

/-- Whether an attribute has the path under which options are given. -/
def isOwn (a : Attribute) : Bool := a.path.written == "db"

/-- An attribute gives the entries that its tokens spell.  One with another path gives none. -/
def Gives (a : Attribute) (entries : List Entry) : Prop :=
  if a.isOwn then ∃ tokens, a.body = .tokens tokens ∧ Spells tokens entries else entries = []

variable {a : Attribute} {entries : List Entry}

/-- The entries that an attribute gives are those that are read off it. -/
theorem gives_iff_entries : a.Gives entries ↔ a.entries = .ok entries := by
  rw [Gives, isOwn]
  split
  · rename_i own
    rw [Attribute.entries, if_pos (beq_iff_eq.1 own)]
    cases a.body with
    | nothing => simp [AttributeBody.entries]
    | value content => simp [AttributeBody.entries]
    | tokens tokens => simp [AttributeBody.entries, readEntries_eq_ok_iff]
  · rename_i other
    rw [entries_of_other_path fun same => other (beq_iff_eq.2 same), Except.ok.injEq, eq_comm]

theorem gives_iff : a.Gives entries ↔ a.IsWellFormed ∧ entries = a.given := by
  rw [gives_iff_entries, entries_eq_ok_iff]

end Attribute

/-- Attributes give lists of entries in one way only, if at all. -/
theorem forall₂_gives_iff {attributes : List Attribute} {parts : List (List Entry)} :
    List.Forall₂ Attribute.Gives attributes parts ↔
      (∀ a ∈ attributes, a.IsWellFormed) ∧ parts = attributes.map Attribute.given := by
  induction attributes generalizing parts with
  | nil => rw [List.forall₂_nil_left_iff, List.map_nil, and_iff_right (List.forall_mem_nil _)]
  | cons a rest ih =>
    rw [List.forall₂_cons_left_iff, List.forall_mem_cons, List.map_cons]
    constructor
    · rintro ⟨first, others, gives, more, rfl⟩
      obtain ⟨wellFormed, rfl⟩ := Attribute.gives_iff.1 gives
      obtain ⟨all, rfl⟩ := ih.1 more
      exact ⟨⟨wellFormed, all⟩, rfl⟩
    · rintro ⟨⟨wellFormed, all⟩, rfl⟩
      exact ⟨_, _, Attribute.gives_iff.2 ⟨wellFormed, rfl⟩, ih.2 ⟨all, rfl⟩, rfl⟩

/-- The options of attributes are those of all their entries taken one behind the other. -/
theorem readOptions_of_gives {attributes : List Attribute} {parts : List (List Entry)}
    (gives : List.Forall₂ Attribute.Gives attributes parts) :
    readOptions attributes = .ok
      { table := lastTable parts.flatten
        column := lastColumn parts.flatten
        skip := parts.flatten.contains .skip } := by
  obtain ⟨wellFormed, rfl⟩ := forall₂_gives_iff.1 gives
  rw [← List.flatMap_def]
  exact readOptions_of_wellFormed wellFormed

/-- Attributes with other paths have no entries, and no flaws either. -/
theorem allEntries_filter_isOwn (attributes : List Attribute) :
    allEntries (attributes.filter Attribute.isOwn) = allEntries attributes := by
  induction attributes with
  | nil => rfl
  | cons a rest ih =>
    by_cases own : a.isOwn = true
    · rw [List.filter_cons_of_pos own, allEntries, allEntries, ih]
    · have other : a.path.written ≠ "db" := fun same => own (beq_iff_eq.2 same)
      rw [List.filter_cons_of_neg own, ih, allEntries, entries_of_other_path other]
      cases allEntries rest <;> rfl

/-- **Which attributes have options, and what these do not depend on.**  There are options exactly
when the tokens of every attribute with the own path spell entries.  They are then those of all the
entries in their order, of which the last text for an option counts; so it makes no difference how
the entries are spread over attributes.  Attributes with other paths make no difference either,
not even to the flaw that is reported. -/
theorem readOptions_merges (attributes : List Attribute) :
    ((∃ options, readOptions attributes = .ok options) ↔
      ∀ a ∈ attributes, a.path.written = "db" →
        ∃ tokens entries, a.body = .tokens tokens ∧ Spells tokens entries) ∧
    (∀ parts, List.Forall₂ Attribute.Gives attributes parts →
      readOptions attributes = .ok
          { table := lastTable parts.flatten
            column := lastColumn parts.flatten
            skip := parts.flatten.contains .skip } ∧
        ∀ attributes' parts', List.Forall₂ Attribute.Gives attributes' parts' →
          parts'.flatten = parts.flatten → readOptions attributes' = readOptions attributes) ∧
    ∀ attributes' : List Attribute,
      attributes'.filter Attribute.isOwn = attributes.filter Attribute.isOwn →
        readOptions attributes' = readOptions attributes := by
  refine ⟨⟨?_, ?_⟩, fun parts gives => ⟨readOptions_of_gives gives, ?_⟩, ?_⟩
  · rintro ⟨options, read⟩
    exact (readOptions_eq_ok_iff.1 read).1
  · intro wellFormed
    exact ⟨_, readOptions_of_wellFormed wellFormed⟩
  · intro attributes' parts' gives' same
    rw [readOptions_of_gives gives, readOptions_of_gives gives', same]
  · intro attributes' same
    rw [readOptions_eq, readOptions_eq, ← allEntries_filter_isOwn, same, allEntries_filter_isOwn]

/-- A table given twice, with attributes around it that do not count. -/
def spreadAttributes : List Attribute :=
  [⟨⟨"db", false⟩,
      .tokens ((Entry.table "draft").tokens ++ .comma :: Entry.skip.tokens ++ [.comma])⟩,
    ⟨⟨"db", true⟩, .tokens [.comma, .equals]⟩, ⟨⟨"db", false⟩, .tokens []⟩,
    ⟨⟨"doc", false⟩, .value "a table"⟩, ⟨⟨"db", false⟩, .tokens (Entry.table "final").tokens⟩]

/-- The same entries in one attribute. -/
def gatheredAttributes : List Attribute :=
  [⟨⟨"db", false⟩, .tokens ((Entry.table "draft").tokens ++ .comma :: (Entry.skip.tokens ++
    .comma :: (Entry.table "final").tokens))⟩]

theorem readOptions_merges_spread :
    readOptions spreadAttributes = .ok { table := some "final", column := none, skip := true } ∧
      readOptions gatheredAttributes = readOptions spreadAttributes ∧
        readOptions (spreadAttributes.filter Attribute.isOwn) = readOptions spreadAttributes := by
  have spread : List.Forall₂ Attribute.Gives spreadAttributes
      [[.table "draft", .skip], [], [], [], [.table "final"]] := by
    refine .cons ?_ (.cons ?_ (.cons ?_ (.cons ?_ (.cons ?_ .nil)))) <;>
      exact Attribute.gives_iff_entries.2 rfl
  have gathered : List.Forall₂ Attribute.Gives gatheredAttributes
      [[.table "draft", .skip, .table "final"]] :=
    .cons (Attribute.gives_iff_entries.2 rfl) .nil
  obtain ⟨-, merged, others⟩ := readOptions_merges spreadAttributes
  obtain ⟨options, split⟩ := merged _ spread
  exact ⟨options, split _ _ gathered rfl, others _ (by decide)⟩

end SqlAssembly
