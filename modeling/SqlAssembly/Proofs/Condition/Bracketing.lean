import SqlAssembly.Proofs.Condition.Erasure

/-!
# Which operands are bracketed

Whether an operand is bracketed is read off its text.  The same can be told from what it is made
of: nothing that is written between names and values makes a connective or breaks one up.

* `IsSeam` — a text that shares no character with a connective.
* `mentions_append_seam`, `mentions_intercalate` — a connective in texts with seams between them is
  in one of the texts.
* `Predicate.sources` — what a predicate is given as text, and its values without quotes.
* `Condition.involves` — a connective among those of a condition or in the sources of a leaf.
* `Condition.structured` — a condition written without a look at the text of an operand.
* `text_eq_structured` — conditions are written like this.
-/

set_option autoImplicit false

namespace SqlAssembly

open Reading

/-! ## Seams -/

/-- A text between two others that has no character in common with a connective. -/
def IsSeam (sep : String) : Prop :=
  sep ≠ "" ∧ ∀ connective : Connective, ∀ c ∈ sep.toList, c ∉ mark connective

theorem isSeam_iff {sep : String} :
    IsSeam sep ↔ sep ≠ "" ∧ sep.toList.all (fun c => !(mark .and ++ mark .or).contains c) := by
  simp only [IsSeam, List.all_eq_true, Bool.not_eq_true', List.contains_eq_mem,
    decide_eq_false_iff_not, List.mem_append, not_or]
  refine and_congr_right fun _ => ⟨fun h c hc => ⟨h .and c hc, h .or c hc⟩, ?_⟩
  intro h connective c hc
  cases connective with
  | and => exact (h c hc).1
  | or => exact (h c hc).2

instance (sep : String) : Decidable (IsSeam sep) := decidable_of_iff' _ isSeam_iff

/-- Characters that a word lacks can be left away in front of a text. -/
theorem isInfix_append_of_disjoint {w sep : List Char} (h : ∀ c ∈ sep, c ∉ w) (text : List Char) :
    w <:+: sep ++ text ↔ w <:+: text := by
  induction sep with
  | nil => rfl
  | cons c sep ih =>
    rw [List.forall_mem_cons] at h
    have empty : w <:+: ([] : List Char) → w <:+: sep ++ text := fun hn => hn.trans List.nil_infix
    have apart := isInfix_append_cons h.1 [] (sep ++ text)
    rw [List.nil_append, or_iff_right_of_imp empty] at apart
    rw [List.cons_append, apart, ih h.2]

section

variable (connective : Connective) {sep : String} (h : IsSeam sep)

theorem mentions_empty : mentions connective.word "" = false := by cases connective <;> rfl

include h

theorem mentions_append_seam (first second : String) :
    mentions connective.word (first ++ sep ++ second) =
      (mentions connective.word first || mentions connective.word second) := by
  have apart := h.2 connective
  cases chars : sep.toList with
  | nil => exact absurd (String.toList_eq_nil_iff.1 chars) h.1
  | cons c rest =>
    rw [chars, List.forall_mem_cons] at apart
    have split : (first ++ sep ++ second).toList =
        first.toList ++ c :: (rest ++ second.toList) := by
      simp [chars]
    rw [Bool.eq_iff_iff, Bool.or_eq_true, mentions_iff, mentions_iff, mentions_iff, split]
    exact (isInfix_append_cons apart.1 _ _).trans
      (or_congr_right (isInfix_append_of_disjoint apart.2 _))

theorem mentions_seam_append (text : String) :
    mentions connective.word (sep ++ text) = mentions connective.word text := by
  have := mentions_append_seam connective h "" text
  rwa [String.empty_append, mentions_empty, Bool.false_or] at this

theorem mentions_append_of_seam (text : String) :
    mentions connective.word (text ++ sep) = mentions connective.word text := by
  have := mentions_append_seam connective h text ""
  rwa [String.append_empty, mentions_empty, Bool.or_false] at this

theorem mentions_intercalate (texts : List String) :
    mentions connective.word (sep.intercalate texts) = texts.any (mentions connective.word) := by
  induction texts with
  | nil => exact mentions_empty connective
  | cons first rest ih =>
    cases rest with
    | nil => simp
    | cons second rest =>
      rw [String.intercalate_cons_cons, mentions_append_seam connective h, ih]
      rfl

end

theorem isSeam_space : IsSeam " " := by decide

theorem isSeam_quote : IsSeam "'" := by decide

theorem isSeam_percent : IsSeam "%" := by decide

variable (connective : Connective)

theorem mentions_word (other : Connective) :
    mentions connective.word other.word = (other == connective) := by
  cases connective <;> cases other <;> rfl

theorem mentions_quoted (text : String) :
    mentions connective.word (quoted text) = mentions connective.word text := by
  rw [quoted, mentions_append_of_seam connective isSeam_quote,
    mentions_seam_append connective isSeam_quote]

theorem mentions_bracketed (text : String) :
    mentions connective.word ("(" ++ text ++ ")") = mentions connective.word text := by
  have opening : IsSeam "(" := by decide
  have closing : IsSeam ")" := by decide
  rw [mentions_append_of_seam connective closing, mentions_seam_append connective opening]

theorem mentions_pattern (place : Place) (text : String) :
    mentions connective.word (place.pattern text) = mentions connective.word text := by
  cases place with
  | start => exact mentions_append_of_seam connective isSeam_percent text
  | finish => exact mentions_seam_append connective isSeam_percent text
  | anywhere =>
    rw [Place.pattern, mentions_append_of_seam connective isSeam_percent,
      mentions_seam_append connective isSeam_percent]

/-! ## Values -/

namespace Value

theorem mentions_literal (v : Value) :
    mentions connective.word v.literal = mentions connective.word v.plain := by
  unfold literal
  split
  · exact mentions_quoted connective v.plain
  · rfl

/-- It makes no difference to a list whether its values are quoted. -/
theorem mentions_listing (values : List Value) :
    mentions connective.word (listing values) =
      (values.map plain).any (mentions connective.word) := by
  have closing : IsSeam "', '" := by decide
  have comma : IsSeam ", " := by decide
  unfold listing
  split
  · rw [mentions_quoted, mentions_intercalate connective closing]
  · rw [mentions_intercalate connective comma, List.any_map, List.any_map]
    exact congrArg (values.any ·) (funext (mentions_literal connective))

end Value

/-! ## Predicates -/

namespace Predicate

/-- What a predicate is given as text, and its values without quotes. -/
def sources (p : Predicate) : List String := p.subject :: p.values.map Value.plain

theorem mentions_symbol (comparison : Comparison) :
    mentions connective.word comparison.symbol = false := by
  cases connective <;> cases comparison <;> rfl

theorem mentions_words (asked : Test) : mentions connective.word asked.words = false := by
  cases connective <;> cases asked <;> rfl

theorem mentions_keyword (negated : Bool) {word : String}
    (h : mentions connective.word word = false) :
    mentions connective.word (keyword negated word) = false := by
  cases negated with
  | false => exact h
  | true =>
    have start : mentions connective.word "NOT" = false := by cases connective <;> rfl
    have split : keyword true word = "NOT" ++ " " ++ word := by
      have : "NOT " = "NOT" ++ " " := by decide
      rw [keyword, if_pos rfl, this]
    rw [split, mentions_append_seam connective isSeam_space, start, h, Bool.or_self]

/-- A predicate mentions a connective exactly when one of its sources does: the words between
them, quotes, percent signs and commas make no difference. -/
theorem mentions_text (p : Predicate) :
    mentions connective.word p.text = p.sources.any (mentions connective.word) := by
  cases p with
  | compare target comparison value =>
    simp [text, sources, subject, values, mentions_append_seam connective isSeam_space,
      mentions_symbol, Value.mentions_literal]
  | holds target negated place value =>
    have word : mentions connective.word "LIKE" = false := by cases connective <;> rfl
    simp [text, sources, subject, values, mentions_append_seam connective isSeam_space,
      mentions_keyword connective negated word, mentions_quoted, mentions_pattern]
  | between target negated low high =>
    have word : mentions connective.word "BETWEEN" = false := by cases connective <;> rfl
    have middle : mentions connective.word "TO" = false := by cases connective <;> rfl
    have split : " TO " = " " ++ "TO" ++ " " := by decide
    simp only [text, split, ← String.append_assoc]
    simp [sources, subject, values, mentions_append_seam connective isSeam_space,
      mentions_keyword connective negated word, middle, Value.mentions_literal, Bool.or_assoc]
  | oneOf target negated listed =>
    have word : mentions connective.word "IN" = false := by cases connective <;> rfl
    have opening : IsSeam " (" := by decide
    have closing : IsSeam ")" := by decide
    rw [text, mentions_append_of_seam connective closing, mentions_append_seam connective opening,
      mentions_append_seam connective isSeam_space, mentions_keyword connective negated word,
      Value.mentions_listing, Bool.or_false]
    rfl
  | test target asked =>
    simp [text, sources, subject, values, mentions_append_seam connective isSeam_space,
      mentions_words]
  | verbatim text => simp [Predicate.text, sources, subject, values]

end Predicate

/-! ## Conditions -/

namespace Condition

/-- Whether a connective is one of those that join a condition, or occurs in a source of one of
its leaves. -/
def involves (connective : Connective) : Condition → Bool
  | leaf predicate => predicate.sources.any (mentions connective.word)
  | join own left right =>
    own == connective || left.involves connective || right.involves connective

/-- A condition written by its structure: the left operand is never bracketed, and the right one
is when it involves the other connective. -/
def structured : Condition → String
  | leaf predicate => predicate.text
  | join connective left right =>
    left.structured ++ " " ++ connective.word ++ " " ++
      if right.involves connective.other then "(" ++ right.structured ++ ")" else right.structured

/-- Brackets neither make a connective nor hide one. -/
theorem mentions_operand (own : Connective) (text : String) :
    mentions connective.word (operand own text) = mentions connective.word text := by
  cases mentioned : mentions own.other.word text with
  | true => rw [operand_of_mentions mentioned, mentions_bracketed connective text]
  | false => rw [operand_of_not_mentions mentioned]

theorem mentions_text (c : Condition) :
    mentions connective.word c.text = c.involves connective := by
  induction c with
  | leaf predicate => exact predicate.mentions_text connective
  | join own left right ihl ihr =>
    rw [text_join, mentions_append_seam connective isSeam_space,
      mentions_append_seam connective isSeam_space, mentions_operand, mentions_word, ihl, ihr,
      involves, Bool.or_comm (left.involves connective)]

/-- **Brackets follow the structure.**  A condition is written as its structure says, and a
connective occurs in its text exactly when the condition involves it: no word of a predicate, no
quote, no percent sign and no comma makes it occur or hides it. -/
theorem text_eq_structured (c : Condition) :
    c.text = c.structured ∧
      ∀ connective : Connective, mentions connective.word c.text = c.involves connective := by
  refine ⟨?_, fun connective => mentions_text connective c⟩
  induction c with
  | leaf predicate => rfl
  | join connective left right ihl ihr =>
    rw [text_join, operand, mentions_text, ihl, ihr]
    rfl

end Condition

end SqlAssembly
