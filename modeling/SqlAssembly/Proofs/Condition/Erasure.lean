import SqlAssembly.Proofs.Condition.Composition
import SqlAssembly.Proofs.Text.Quote
import SqlAssembly.Proofs.Value.Characters

/-!
# Conditions and the texts in them

A text value can show in two ways in the text of a condition: between quotes, and in whether an
operand is bracketed.

* `Value.erased`, `Predicate.erased`, `Condition.erased` — the same with nothing in its text
  values.
* `Value.strings`, `Condition.strings` — everything that was given as text, and `texts`, what was
  given in text values.
* `Condition.similar_erased` — a condition is written like the erased one, but for what stands
  between quotes, and but for brackets unless no text value mentions a connective.
-/

set_option autoImplicit false

namespace SqlAssembly

open Reading

/-- What may stand between the quotes of two texts: where `loose` anything, otherwise texts that
mention the same connectives. -/
def Hidden (loose : Prop) (s t : List Char) : Prop :=
  loose ∨ ∀ connective, mark connective <:+: s ↔ mark connective <:+: t

/-- Two texts that are the same outside of quotes.  Where `loose`, brackets do not count;
otherwise the texts mention the same connectives between quotes too. -/
abbrev Similar (loose : Prop) : List Char → List Char → Prop := Alike loose (Hidden loose)

/-- A text that can be put in place of an erased one. -/
def Harmless (loose : Prop) (text : String) : Prop :=
  loose ∨ ∀ connective : Connective, mentions connective.word text = false

theorem Hidden.refl {loose : Prop} (s : List Char) : Hidden loose s s :=
  Or.inr fun _ => Iff.rfl

theorem Harmless.hidden {loose : Prop} {text : String} (h : Harmless loose text) :
    Hidden loose text.toList [] := by
  refine h.imp_right fun h connective => ?_
  have := (mentions_iff connective.word text).not.1 (Bool.eq_false_iff.1 (h connective))
  refine iff_of_false this ?_
  rw [List.infix_nil]
  cases connective <;> decide

/-- The percent signs of a pattern mention nothing. -/
theorem Hidden.pattern {loose : Prop} {s t : String} (h : Hidden loose s.toList t.toList)
    (place : Place) : Hidden loose (place.pattern s).toList (place.pattern t).toList := by
  refine h.imp_right fun h connective => ?_
  have sign : '%' ∉ mark connective := by cases connective <;> decide
  have nonempty : mark connective ≠ [] := by cases connective <;> decide
  have text : "%".toList = ['%'] := by decide
  have behind : ∀ u : List Char, mark connective <:+: u ++ ['%'] ↔ mark connective <:+: u := by
    intro u
    rw [isInfix_append_cons sign u [], List.infix_nil, or_iff_left nonempty]
  have before : ∀ u : List Char, mark connective <:+: '%' :: u ↔ mark connective <:+: u := by
    intro u
    rw [← List.nil_append ('%' :: u), isInfix_append_cons sign [] u, List.infix_nil,
      or_iff_right nonempty]
  cases place <;>
    simp only [Place.pattern, String.toList_append, text, List.cons_append, List.nil_append,
      before, behind, h connective]

/-! ## Values -/

namespace Value

/-- A value with nothing in it if it is a text. -/
def erased : Value → Value
  | text _ => text ""
  | other => other

/-- What was given as text with a value. -/
def strings : Value → List String
  | text content => [content]
  | column c => [c.table, c.name]
  | _ => []

/-- What stands in a text value. -/
def texts : Value → List String
  | text content => [content]
  | _ => []

theorem isText_erased (v : Value) : v.erased.isText = v.isText := by cases v <;> rfl

theorem erased_of_not_isText {v : Value} (h : v.isText = false) : v.erased = v := by
  cases v <;> first | rfl | cases h

variable {v : Value}

theorem quote_not_mem_plain (h : ∀ s ∈ v.strings, '\'' ∉ s.toList) : '\'' ∉ v.plain.toList := by
  intro found
  cases v with
  | text content => exact h content (by simp [strings]) found
  | column c =>
    rcases mem_plain_column found with same | found | found
    · exact absurd same (by decide)
    · exact h c.table (by simp [strings]) found
    · exact h c.name (by simp [strings]) found
  | int | float | bool | null =>
    exact absurd (isWordChar_of_mem_plain rfl (by simp) found) (by decide)

theorem quote_not_mem_plain_erased (h : ∀ s ∈ v.strings, '\'' ∉ s.toList) :
    '\'' ∉ v.erased.plain.toList := by
  cases v with
  | text content => exact List.not_mem_nil
  | int | float | bool | column | null => exact quote_not_mem_plain h

variable {loose : Prop}

theorem hidden_plain (ht : ∀ s ∈ v.texts, Harmless loose s) :
    Hidden loose v.plain.toList v.erased.plain.toList := by
  cases v with
  | text content => exact (ht content (by simp [texts])).hidden
  | int | float | bool | column | null => exact Hidden.refl _

end Value

theorem similar_quoted {loose : Prop} {s t : String} (hs : '\'' ∉ s.toList) (ht : '\'' ∉ t.toList)
    (h : Hidden loose s.toList t.toList) :
    Similar loose (quoted s).toList (quoted t).toList := by
  rw [toList_quoted, toList_quoted]
  exact Alike.segment hs ht h Alike.nil

namespace Value

variable {loose : Prop}

theorem similar_literal {v : Value} (hs : ∀ s ∈ v.strings, '\'' ∉ s.toList)
    (ht : ∀ s ∈ v.texts, Harmless loose s) :
    Similar loose v.literal.toList v.erased.literal.toList := by
  cases h : v.isText with
  | true =>
    rw [literal, literal, isText_erased, h]
    exact similar_quoted (quote_not_mem_plain hs) (quote_not_mem_plain_erased hs) (hidden_plain ht)
  | false =>
    rw [erased_of_not_isText h, literal_of_not_isText h]
    exact Alike.refl_of_not_mem (quote_not_mem_plain hs)

theorem similar_listing {values : List Value}
    (hs : ∀ v ∈ values, ∀ s ∈ v.strings, '\'' ∉ s.toList)
    (ht : ∀ v ∈ values, ∀ s ∈ v.texts, Harmless loose s) :
    Similar loose (listing values).toList (listing (values.map erased)).toList := by
  have same : (values.map erased).any isText = values.any isText := by
    rw [List.any_map]
    exact congrArg (values.any ·) (funext isText_erased)
  have comma : '\'' ∉ ", ".toList := by decide
  unfold listing
  rw [same]
  split
  · rename_i hasText
    have nonempty : values ≠ [] := by
      rintro rfl
      cases hasText
    have nonempty' : values.map erased ≠ [] := by simpa using nonempty
    rw [quoted_intercalate (by simpa using nonempty), quoted_intercalate (by simpa using nonempty'),
      List.map_map, List.map_map, List.map_map]
    refine Alike.intercalate_map comma ?_
    intro v hv
    exact similar_quoted (quote_not_mem_plain (hs v hv)) (quote_not_mem_plain_erased (hs v hv))
      (hidden_plain (ht v hv))
  · rw [List.map_map]
    refine Alike.intercalate_map comma ?_
    intro v hv
    exact similar_literal (hs v hv) (ht v hv)

end Value

/-! ## Predicates -/

namespace Predicate

/-- A predicate with nothing in its text values. -/
def erased : Predicate → Predicate
  | compare target comparison value => compare target comparison value.erased
  | holds target negated place value => holds target negated place value.erased
  | between target negated low high => between target negated low.erased high.erased
  | oneOf target negated values => oneOf target negated (values.map Value.erased)
  | test target asked => test target asked
  | verbatim text => verbatim text

/-- The values that a predicate compares with. -/
def values : Predicate → List Value
  | compare _ _ value => [value]
  | holds _ _ _ value => [value]
  | between _ _ low high => [low, high]
  | oneOf _ _ values => values
  | test _ _ => []
  | verbatim _ => []

/-- The text that a predicate is given besides its values: its target, or all of it. -/
def subject : Predicate → String
  | compare target _ _ => target
  | holds target _ _ _ => target
  | between target _ _ _ => target
  | oneOf target _ _ => target
  | test target _ => target
  | verbatim text => text

def strings (p : Predicate) : List String := p.subject :: p.values.flatMap Value.strings

def texts (p : Predicate) : List String := p.values.flatMap Value.texts

theorem quote_not_mem_symbol (comparison : Comparison) : '\'' ∉ comparison.symbol.toList := by
  cases comparison <;> decide

theorem quote_not_mem_words (asked : Test) : '\'' ∉ asked.words.toList := by
  cases asked <;> decide

theorem quote_not_mem_keyword (negated : Bool) {word : String} (h : '\'' ∉ word.toList) :
    '\'' ∉ (keyword negated word).toList := by
  have start : '\'' ∉ "NOT ".toList := by decide
  cases negated
  · exact h
  · exact quote_not_mem_append start h

theorem quote_not_mem_pattern {text : String} (h : '\'' ∉ text.toList) (place : Place) :
    '\'' ∉ (place.pattern text).toList := by
  have sign : '\'' ∉ "%".toList := by decide
  cases place
  · exact quote_not_mem_append h sign
  · exact quote_not_mem_append sign h
  · exact quote_not_mem_append (quote_not_mem_append sign h) sign

variable {loose : Prop}

theorem similar_erased {p : Predicate} (hs : ∀ s ∈ p.strings, '\'' ∉ s.toList)
    (ht : ∀ s ∈ p.texts, Harmless loose s) :
    Similar loose p.text.toList p.erased.text.toList := by
  have own : '\'' ∉ p.subject.toList := hs _ (List.mem_cons_self ..)
  have hs : ∀ v ∈ p.values, ∀ s ∈ v.strings, '\'' ∉ s.toList := fun v hv s h =>
    hs s (List.mem_cons_of_mem _ (List.mem_flatMap.2 ⟨v, hv, h⟩))
  have ht : ∀ v ∈ p.values, ∀ s ∈ v.texts, Harmless loose s := fun v hv s h =>
    ht s (List.mem_flatMap.2 ⟨v, hv, h⟩)
  have space : '\'' ∉ " ".toList := by decide
  have target := quote_not_mem_append own space
  cases p with
  | compare _ comparison value =>
    have front := quote_not_mem_append
      (quote_not_mem_append target (quote_not_mem_symbol comparison)) space
    have found : value ∈ [value] := List.mem_singleton_self value
    exact (Value.similar_literal (hs _ found) (ht _ found)).behind front
  | holds _ negated place value =>
    have word : '\'' ∉ "LIKE".toList := by decide
    have front := quote_not_mem_append
      (quote_not_mem_append target (quote_not_mem_keyword negated word)) space
    have found : value ∈ [value] := List.mem_singleton_self value
    have hidden := (Value.hidden_plain (ht _ found)).pattern place
    have hp := quote_not_mem_pattern (Value.quote_not_mem_plain (hs _ found)) place
    have he := quote_not_mem_pattern (Value.quote_not_mem_plain_erased (hs _ found)) place
    exact (similar_quoted hp he hidden).behind front
  | between _ negated low high =>
    have word : '\'' ∉ "BETWEEN".toList := by decide
    have front := quote_not_mem_append
      (quote_not_mem_append target (quote_not_mem_keyword negated word)) space
    have middle : '\'' ∉ " TO ".toList := by decide
    have hl : low ∈ [low, high] := List.mem_cons_self ..
    have hh : high ∈ [low, high] := List.mem_cons_of_mem _ (List.mem_singleton_self high)
    have first := (Value.similar_literal (hs _ hl) (ht _ hl)).behind front
    exact (first.before middle).concat (Value.similar_literal (hs _ hh) (ht _ hh))
  | oneOf _ negated values =>
    have word : '\'' ∉ "IN".toList := by decide
    have opening : '\'' ∉ " (".toList := by decide
    have closing : '\'' ∉ ")".toList := by decide
    have front := quote_not_mem_append
      (quote_not_mem_append target (quote_not_mem_keyword negated word)) opening
    exact ((Value.similar_listing hs ht).behind front).before closing
  | test _ asked =>
    exact Alike.refl_of_not_mem (quote_not_mem_append target (quote_not_mem_words asked))
  | verbatim text => exact Alike.refl_of_not_mem own

end Predicate

/-! ## Conditions -/

namespace Condition

/-- A condition with nothing in its text values. -/
def erased : Condition → Condition
  | leaf predicate => leaf predicate.erased
  | join connective left right => join connective left.erased right.erased

def strings : Condition → List String
  | leaf predicate => predicate.strings
  | join _ left right => left.strings ++ right.strings

def texts : Condition → List String
  | leaf predicate => predicate.texts
  | join _ left right => left.texts ++ right.texts

variable {loose : Prop}

/-- Brackets around an operand make no difference where they do not count; where they do, two
operands that mention the same are bracketed alike. -/
theorem similar_operand {s t : String} (connective : Connective)
    (h : Similar loose s.toList t.toList) :
    Similar loose (operand connective s).toList (operand connective t).toList := by
  have both : Similar loose ("(" ++ s ++ ")").toList ("(" ++ t ++ ")").toList := by
    rw [toList_bracketed, toList_bracketed]
    exact h.bracketed
  by_cases allowed : loose
  · unfold operand
    split <;> split
    · exact both
    · rw [toList_bracketed]
      exact h.bracketed_left allowed
    · rw [toList_bracketed]
      exact h.bracketed_right allowed
    · exact h
  · have same : mentions connective.other.word s = mentions connective.other.word t := by
      obtain rfl : loose = False := eq_false allowed
      have quote : '\'' ∉ mark connective.other := by cases connective <;> decide
      rw [Bool.eq_iff_iff, mentions_iff, mentions_iff]
      exact h.isInfix_iff quote fun s t hidden => hidden.resolve_left id connective.other
    cases mentioned : mentions connective.other.word t with
    | true =>
      rw [operand_of_mentions (same.trans mentioned), operand_of_mentions mentioned]
      exact both
    | false =>
      rwa [operand_of_not_mentions (same.trans mentioned), operand_of_not_mentions mentioned]

theorem similar_erased {c : Condition} (hs : ∀ s ∈ c.strings, '\'' ∉ s.toList)
    (ht : ∀ s ∈ c.texts, Harmless loose s) :
    Similar loose c.text.toList c.erased.text.toList := by
  induction c with
  | leaf predicate => exact Predicate.similar_erased hs ht
  | join connective left right ihl ihr =>
    have hl := ihl (fun s h => hs s (List.mem_append_left _ h))
      fun s h => ht s (List.mem_append_left _ h)
    have hr := ihr (fun s h => hs s (List.mem_append_right _ h))
      fun s h => ht s (List.mem_append_right _ h)
    have space : '\'' ∉ " ".toList := by decide
    have word : '\'' ∉ connective.word.toList := by cases connective <;> decide
    exact (((hl.before space).before word).before space).concat (similar_operand connective hr)

end Condition

end SqlAssembly
