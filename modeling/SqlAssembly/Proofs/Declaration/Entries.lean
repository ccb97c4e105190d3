import Mathlib.Data.List.Induction
import SqlAssembly.Declaration.Options

/-!
# What attributes say

The options that attributes give, told by a grammar and without reading token by token.

* `Entry.tokens`, `Spells` — how an entry is spelled, and how several are: with a comma between
  any two of them and at most one behind the last.
* `readOptions_eq` — merging the options of one attribute after the other is the same as taking all
  their entries together.
* `Attribute.IsWellFormed` — an attribute is ignored, or its tokens spell entries.
* `entriesOf` — the entries of attributes, found by looking for how an entry is spelled.
* `lastTable`, `lastColumn` — of several texts for one option, the one that counts.
* `readOptions_eq_ok_iff` — the options of well-formed attributes, and that no others have any.
-/

set_option autoImplicit false

namespace SqlAssembly

/-! ## Results -/

section

variable {ε α β : Type}

theorem map_eq_ok_iff {f : α → β} {x : Except ε α} {b : β} :
    x.map f = .ok b ↔ ∃ a, x = .ok a ∧ f a = b := by
  cases x <;> simp [Except.map]

theorem bind_eq_ok_iff {x : Except ε α} {f : α → Except ε β} {b : β} :
    x >>= f = .ok b ↔ ∃ a, x = .ok a ∧ f a = .ok b := by
  cases x <;> simp [bind, Except.bind]

end

/-! ## Spelling entries -/

/-- How an entry is spelled.  A raw word is never the name of an option. -/
def Entry.tokens : Entry → List Token
  | table name => [.word ⟨"table", false⟩, .equals, .text name]
  | column name => [.word ⟨"column", false⟩, .equals, .text name]
  | skip => [.word ⟨"skip", false⟩]

/-- Tokens spell entries: these stand one behind the other with a comma between any two, and
behind the last there may be one more. -/
def Spells (tokens : List Token) (entries : List Entry) : Prop :=
  tokens = [.comma].intercalate (entries.map Entry.tokens) ∨
    entries ≠ [] ∧ tokens = [.comma].intercalate (entries.map Entry.tokens) ++ [.comma]

theorem spells_nil_iff {tokens : List Token} : Spells tokens [] ↔ tokens = [] := by
  simp [Spells]

/-- The first of several entries is followed by nothing, or by a comma and the others. -/
theorem spells_cons_iff {tokens : List Token} {entry : Entry} {entries : List Entry} :
    Spells tokens (entry :: entries) ↔
      tokens = entry.tokens ∧ entries = [] ∨
        ∃ rest, tokens = entry.tokens ++ .comma :: rest ∧ Spells rest entries := by
  cases entries with
  | nil => simp [Spells]
  | cons next entries =>
    simp only [Spells, List.map_cons, List.intercalate_cons_cons, ne_eq, List.cons_ne_nil,
      not_false_eq_true, true_and, and_false, false_or, List.append_assoc, List.cons_append]
    constructor
    · rintro (rfl | rfl)
      · exact ⟨_, rfl, Or.inl rfl⟩
      · exact ⟨_, rfl, Or.inr rfl⟩
    · rintro ⟨rest, rfl, rfl | rfl⟩
      · exact Or.inl rfl
      · exact Or.inr rfl

/-! ## Reading entries -/

/-- A word that is written as another one is written, which is not raw, is that word. -/
theorem Word.eq_of_written {w : Word} {text : String} (plain : text.toList.head? ≠ some 'r')
    (h : w.written = text) : w = ⟨text, false⟩ := by
  obtain ⟨own, raw⟩ := w
  cases raw with
  | false => exact congrArg (Word.mk · false) h
  | true =>
    have marked : ((Word.mk own true).written).toList.head? = some 'r' := by simp [written]
    rw [h] at marked
    exact absurd marked plain

/-- A word that announces a complete entry is all of its spelling. -/
theorem tokens_of_announce_complete {w : Word} {entry : Entry}
    (h : announce w = .ok (.complete entry)) : entry.tokens = [.word w] := by
  unfold announce at h
  split at h
  · cases h
  · split at h
    · rename_i written
      cases h
      rw [Word.eq_of_written (by decide) written]
      rfl
    · split at h
      · cases h
      · split at h <;> cases h

theorem tokens_of_announce_awaitsText {w : Word} {entry : String → Entry}
    (h : announce w = .ok (.awaitsText entry)) (content : String) :
    (entry content).tokens = [.word w, .equals, .text content] := by
  unfold announce at h
  split at h
  · cases h
  · split at h
    · cases h
    · split at h
      · rename_i written
        cases h
        rw [Word.eq_of_written (by decide) written]
        rfl
      · split at h
        · rename_i written
          cases h
          rw [Word.eq_of_written (by decide) written]
          rfl
        · cases h

theorem readEntries_tokens (entry : Entry) : readEntries entry.tokens = .ok [entry] := by
  cases entry <;> rfl

theorem readEntries_tokens_append (entry : Entry) (rest : List Token) :
    readEntries (entry.tokens ++ .comma :: rest) = (readEntries rest).map (entry :: ·) := by
  cases entry <;> rfl

/-- The entries that are read are the ones that the tokens spell. -/
theorem readEntries_eq_ok_iff {tokens : List Token} {entries : List Entry} :
    readEntries tokens = .ok entries ↔ Spells tokens entries := by
  constructor
  · intro h
    fun_induction readEntries tokens generalizing entries with
    | case1 =>
      cases h
      exact spells_nil_iff.2 rfl
    | case3 w entry announced =>
      cases h
      exact spells_cons_iff.2 (Or.inl ⟨(tokens_of_announce_complete announced).symm, rfl⟩)
    | case4 w entry announced more ih =>
      obtain ⟨others, read, rfl⟩ := map_eq_ok_iff.1 h
      refine spells_cons_iff.2 (Or.inr ⟨more, ?_, ih read⟩)
      rw [tokens_of_announce_complete announced]
      rfl
    | case6 w entry announced content =>
      cases h
      exact spells_cons_iff.2
        (Or.inl ⟨(tokens_of_announce_awaitsText announced content).symm, rfl⟩)
    | case7 w entry announced content more ih =>
      obtain ⟨others, read, rfl⟩ := map_eq_ok_iff.1 h
      refine spells_cons_iff.2 (Or.inr ⟨more, ?_, ih read⟩)
      rw [tokens_of_announce_awaitsText announced]
      rfl
    -- in all other cases there is a token that does not fit
    | case2 | case5 | case8 | case9 | case10 | case11 | case12 => cases h
  · intro h
    induction entries generalizing tokens with
    | nil =>
      rw [spells_nil_iff.1 h]
      rfl
    | cons entry entries ih =>
      rcases spells_cons_iff.1 h with ⟨rfl, rfl⟩ | ⟨rest, rfl, more⟩
      · exact readEntries_tokens entry
      · rw [readEntries_tokens_append, ih more]
        rfl

/-! ## Finding entries -/

/-- The entries among tokens, by how they are spelled. -/
def entriesAmong : List Token → List Entry
  | .word ⟨"table", false⟩ :: .equals :: .text name :: rest => .table name :: entriesAmong rest
  | .word ⟨"column", false⟩ :: .equals :: .text name :: rest => .column name :: entriesAmong rest
  | .word ⟨"skip", false⟩ :: rest => .skip :: entriesAmong rest
  | _ :: rest => entriesAmong rest
  | [] => []

theorem entriesAmong_tokens_append (entry : Entry) (rest : List Token) :
    entriesAmong (entry.tokens ++ rest) = entry :: entriesAmong rest := by
  cases entry <;> rfl

theorem Spells.entriesAmong_eq {tokens : List Token} {entries : List Entry}
    (h : Spells tokens entries) : entriesAmong tokens = entries := by
  induction entries generalizing tokens with
  | nil =>
    rw [spells_nil_iff.1 h]
    rfl
  | cons entry entries ih =>
    rcases spells_cons_iff.1 h with ⟨rfl, rfl⟩ | ⟨rest, rfl, more⟩
    · have := entriesAmong_tokens_append entry []
      rwa [List.append_nil] at this
    · have comma : entriesAmong (.comma :: rest) = entriesAmong rest := rfl
      rw [entriesAmong_tokens_append, comma, ih more]

/-! ## Attributes in their order -/

/-- The entries of an attribute; one with another path has none, whatever it holds. -/
def Attribute.entries (a : Attribute) : Except Flaw (List Entry) :=
  if a.path.written = "db" then a.body.entries else .ok []

theorem entries_of_other_path {a : Attribute} (h : a.path.written ≠ "db") : a.entries = .ok [] :=
  if_neg h

/-- The entries of several attributes in their order. -/
def allEntries : List Attribute → Except Flaw (List Entry)
  | [] => .ok []
  | a :: rest =>
    match a.entries with
    | .error flaw => .error flaw
    | .ok entries => (allEntries rest).map (entries ++ ·)

theorem Options.merge_add (earlier later : Options) (entry : Entry) :
    earlier.merge (later.add entry) = (earlier.merge later).add entry := by
  cases entry <;> simp [merge, add]

/-- Merging the options of entries is adding these entries one by one. -/
theorem Options.merge_ofEntries (earlier : Options) (entries : List Entry) :
    earlier.merge (ofEntries entries) = entries.foldl add earlier := by
  induction entries using List.reverseRecOn with
  | nil => simp [merge, ofEntries]
  | append_singleton entries entry ih =>
    rw [ofEntries_append, List.foldl_append, List.foldl_cons, List.foldl_nil, merge_add, ih,
      List.foldl_cons, List.foldl_nil]

theorem mergeAttribute_eq (merged : Options) (a : Attribute) :
    mergeAttribute merged a = a.entries.map fun entries => entries.foldl Options.add merged := by
  rw [mergeAttribute, Attribute.entries]
  split
  · simp only [Options.merge_ofEntries]
  · rfl

/-- Behind options that are merged already, attributes add all their entries one by one. -/
theorem foldlM_mergeAttribute (attributes : List Attribute) (merged : Options) :
    attributes.foldlM mergeAttribute merged =
      (allEntries attributes).map fun entries => entries.foldl Options.add merged := by
  induction attributes generalizing merged with
  | nil => rfl
  | cons a rest ih =>
    rw [List.foldlM_cons, mergeAttribute_eq, allEntries]
    cases a.entries with
    | error flaw => rfl
    | ok first =>
      have step : (rest.foldlM mergeAttribute (first.foldl Options.add merged)) =
          (allEntries rest).map fun others => (first ++ others).foldl Options.add merged := by
        simp only [ih, List.foldl_append]
      refine step.trans ?_
      cases allEntries rest <;> rfl

/-- **The options merged attribute by attribute are those of all entries taken together.** -/
theorem readOptions_eq (attributes : List Attribute) :
    readOptions attributes = (allEntries attributes).map Options.ofEntries :=
  foldlM_mergeAttribute attributes {}

/-! ## Well-formed attributes -/

namespace Attribute

/-- An attribute with another path is well-formed whatever it holds; one with the path `db` must
hold tokens that spell entries. -/
def IsWellFormed (a : Attribute) : Prop :=
  a.path.written = "db" → ∃ tokens entries, a.body = .tokens tokens ∧ Spells tokens entries

/-- The entries of an attribute.  One with another path has none. -/
def given (a : Attribute) : List Entry :=
  match a.body with
  | .tokens tokens => if a.path.written = "db" then entriesAmong tokens else []
  | _ => []

theorem entries_eq_ok_iff {a : Attribute} {entries : List Entry} :
    a.entries = .ok entries ↔ a.IsWellFormed ∧ entries = a.given := by
  obtain ⟨path, body⟩ := a
  by_cases own : path.written = "db"
  · cases body with
    | nothing => simp [Attribute.entries, AttributeBody.entries, IsWellFormed, own]
    | value content => simp [Attribute.entries, AttributeBody.entries, IsWellFormed, own]
    | tokens tokens =>
      have read : Attribute.entries ⟨path, .tokens tokens⟩ = readEntries tokens := if_pos own
      rw [read, readEntries_eq_ok_iff]
      constructor
      · intro h
        refine ⟨fun _ => ⟨tokens, entries, rfl, h⟩, ?_⟩
        simp [given, own, h.entriesAmong_eq]
      · rintro ⟨wellFormed, rfl⟩
        obtain ⟨_, entries, same, spelled⟩ := wellFormed own
        cases same
        simpa [given, own, spelled.entriesAmong_eq] using spelled
  · have nothingGiven : given ⟨path, body⟩ = [] := by cases body <;> simp [given, own]
    rw [entries_of_other_path own, nothingGiven]
    simp [IsWellFormed, own, eq_comm]

end Attribute

/-- The entries of attributes in their order. -/
def entriesOf (attributes : List Attribute) : List Entry := attributes.flatMap Attribute.given

theorem allEntries_eq_ok_iff {attributes : List Attribute} {entries : List Entry} :
    allEntries attributes = .ok entries ↔
      (∀ a ∈ attributes, a.IsWellFormed) ∧ entries = entriesOf attributes := by
  induction attributes generalizing entries with
  | nil => simp [allEntries, entriesOf, eq_comm]
  | cons a rest ih =>
    rw [List.forall_mem_cons, entriesOf, List.flatMap_cons, allEntries]
    split
    · rename_i flaw failed
      -- a flaw in the first attribute is one of the whole
      have : ¬ a.IsWellFormed := by
        intro wellFormed
        have := Attribute.entries_eq_ok_iff.2 ⟨wellFormed, rfl⟩
        rw [failed] at this
        cases this
      simp [this]
    · rename_i first read
      obtain ⟨wellFormed, rfl⟩ := Attribute.entries_eq_ok_iff.1 read
      rw [map_eq_ok_iff]
      simp only [ih, wellFormed, true_and]
      constructor
      · rintro ⟨_, ⟨others, rfl⟩, rfl⟩
        exact ⟨others, rfl⟩
      · rintro ⟨others, rfl⟩
        exact ⟨_, ⟨others, rfl⟩, rfl⟩

/-! ## The entries that count -/

def Entry.table? : Entry → Option String
  | table name => some name
  | _ => none

def Entry.column? : Entry → Option String
  | column name => some name
  | _ => none

/-- The table that was given last. -/
def lastTable (entries : List Entry) : Option String := (entries.filterMap Entry.table?).getLast?

/-- The column that was given last. -/
def lastColumn (entries : List Entry) : Option String := (entries.filterMap Entry.column?).getLast?

/-- Entries taken together: of each option the last text, and whether there is a `skip`. -/
theorem ofEntries_eq (entries : List Entry) :
    Options.ofEntries entries =
      { table := lastTable entries
        column := lastColumn entries
        skip := entries.contains .skip } := by
  induction entries using List.reverseRecOn with
  | nil => rfl
  | append_singleton entries entry ih =>
    rw [Options.ofEntries_append, ih]
    cases entry <;>
      simp [Options.add, lastTable, lastColumn, Entry.table?, Entry.column?]

/-- **Attributes give options exactly when they are well-formed**, and then the ones of their
entries. -/
theorem readOptions_eq_ok_iff {attributes : List Attribute} {options : Options} :
    readOptions attributes = .ok options ↔
      (∀ a ∈ attributes, a.IsWellFormed) ∧
        options =
          { table := lastTable (entriesOf attributes)
            column := lastColumn (entriesOf attributes)
            skip := (entriesOf attributes).contains .skip } := by
  rw [readOptions_eq, map_eq_ok_iff]
  constructor
  · rintro ⟨entries, read, rfl⟩
    obtain ⟨wellFormed, rfl⟩ := allEntries_eq_ok_iff.1 read
    exact ⟨wellFormed, ofEntries_eq _⟩
  · rintro ⟨wellFormed, rfl⟩
    exact ⟨_, allEntries_eq_ok_iff.2 ⟨wellFormed, rfl⟩, ofEntries_eq _⟩

/-- Well-formed attributes have options. -/
theorem readOptions_of_wellFormed {attributes : List Attribute}
    (wellFormed : ∀ a ∈ attributes, a.IsWellFormed) :
    readOptions attributes = .ok
      { table := lastTable (entriesOf attributes)
        column := lastColumn (entriesOf attributes)
        skip := (entriesOf attributes).contains .skip } :=
  readOptions_eq_ok_iff.2 ⟨wellFormed, rfl⟩

/-- Of attributes that are not well-formed one has a flaw. -/
theorem exists_readOptions_eq_error {attributes : List Attribute}
    (illFormed : ¬ ∀ a ∈ attributes, a.IsWellFormed) :
    ∃ flaw, readOptions attributes = .error flaw := by
  cases read : readOptions attributes with
  | error flaw => exact ⟨flaw, rfl⟩
  | ok options => exact absurd (readOptions_eq_ok_iff.1 read).1 illFormed

end SqlAssembly
