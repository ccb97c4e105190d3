import SqlAssembly.Proofs.Condition.Reading

/-!
# What a composed condition means

A condition has a value of its own, by the connectives it was built with, and its text has a
reading.  They differ exactly where an AND takes the last alternative out of an OR that stands at
the left end of its left operand, because a left operand is never bracketed.

* `Condition.value` — the value of a condition.
* `IsFragment` — the texts that can serve as leaves.
* `Condition.orOnSpine`, `Condition.splitsOr` — an OR on the left spine of a condition, and an AND
  with such a left operand.
* `holds_text_join` — the reading of a condition from the readings of its operands.
* `reading_eq_value` — where reading and value agree, and that they agree nowhere else.
-/

set_option autoImplicit false

namespace SqlAssembly

open Reading

/-- The values that a connective makes of two. -/
def Connective.apply : Connective → Bool → Bool → Bool
  | and, x, y => x && y
  | or, x, y => x || y

/-- The value that an operand must have to leave the result to the other one. -/
def Connective.neutral : Connective → Bool
  | and => true
  | or => false

theorem Connective.neutral_apply (c : Connective) (x : Bool) : c.apply c.neutral x = x := by
  cases c <;> cases x <;> rfl

theorem Connective.apply_neutral (c : Connective) (x : Bool) : c.apply x c.neutral = x := by
  cases c <;> cases x <;> rfl

theorem Connective.apply_self (c : Connective) (x : Bool) : c.apply x x = x := by
  cases c <;> cases x <;> rfl

/-- A text that can stand as a leaf of a condition: it keeps its brackets to itself, and none of
its words is a connective.  A connective inside a longer word is none. -/
structure IsFragment (text : String) : Prop where
  nonempty : text ≠ ""
  noSpaceBefore : text.toList.head? ≠ some ' '
  noSpaceBehind : text.toList.getLast? ≠ some ' '
  noBracketBefore : text.toList.head? ≠ some '('
  balanced : Balanced text.toList
  noConnective : ∀ connective, mark connective ∉ tokens text.toList

instance (text : String) : Decidable (IsFragment text) :=
  decidable_of_iff
    (text ≠ "" ∧ text.toList.head? ≠ some ' ' ∧ text.toList.getLast? ≠ some ' ' ∧
      text.toList.head? ≠ some '(' ∧ Balanced text.toList ∧
      mark .and ∉ tokens text.toList ∧ mark .or ∉ tokens text.toList)
    ⟨fun ⟨h₁, h₂, h₃, h₄, h₅, ha, ho⟩ => ⟨h₁, h₂, h₃, h₄, h₅, fun c => by cases c <;> assumption⟩,
      fun h => ⟨h.nonempty, h.noSpaceBefore, h.noSpaceBehind, h.noBracketBefore, h.balanced,
        h.noConnective .and, h.noConnective .or⟩⟩

namespace Condition

/-- The texts of the leaves from left to right. -/
def leaves : Condition → List String
  | leaf predicate => [predicate.text]
  | join _ left right => left.leaves ++ right.leaves

/-- The value of a condition when `v` gives the values of its leaves. -/
def value (v : String → Bool) : Condition → Bool
  | leaf predicate => v predicate.text
  | join connective left right => connective.apply (left.value v) (right.value v)

/-- Whether the condition, its left operand, the left operand of that, and so on, has an OR among
them. -/
def orOnSpine : Condition → Bool
  | leaf _ => false
  | join .or _ _ => true
  | join .and left _ => left.orOnSpine

/-- Whether somewhere an AND has a left operand with an OR on its left spine. -/
def splitsOr : Condition → Bool
  | leaf _ => false
  | join connective left right =>
    (connective == .and && left.orOnSpine) || left.splitsOr || right.splitsOr

/-- All leaves are fragments. -/
def OfFragments (c : Condition) : Prop := ∀ text ∈ c.leaves, IsFragment text

instance (c : Condition) : Decidable c.OfFragments :=
  inferInstanceAs (Decidable (∀ text ∈ c.leaves, IsFragment text))

theorem OfFragments.left {connective : Connective} {left right : Condition}
    (h : (join connective left right).OfFragments) : left.OfFragments :=
  fun text ht => h text (List.mem_append_left _ ht)

theorem OfFragments.right {connective : Connective} {left right : Condition}
    (h : (join connective left right).OfFragments) : right.OfFragments :=
  fun text ht => h text (List.mem_append_right _ ht)

/-! ## The text of a condition -/

theorem toList_text_join (connective : Connective) (left right : Condition) :
    (join connective left right).text.toList =
      left.text.toList ++
        ' ' :: (mark connective ++ ' ' :: (operand connective right.text).toList) := by
  have hs : " ".toList = [' '] := by decide
  simp only [text_join, String.toList_append, mark, hs, List.append_assoc, List.cons_append,
    List.nil_append]

theorem toList_bracketed (text : String) :
    ("(" ++ text ++ ")").toList = '(' :: text.toList ++ [')'] := by
  have ho : "(".toList = ['('] := by decide
  have hc : ")".toList = [')'] := by decide
  simp only [String.toList_append, ho, hc, List.singleton_append]

theorem balanced_operand {text : String} (h : Balanced text.toList) (connective : Connective) :
    Balanced (operand connective text).toList := by
  cases mentioned : mentions connective.other.word text with
  | true =>
    rw [operand_of_mentions mentioned, toList_bracketed]
    exact h.bracketed
  | false => rwa [operand_of_not_mentions mentioned]

/-- Every bracket of a condition is closed inside the condition. -/
theorem OfFragments.balanced_text {c : Condition} (h : c.OfFragments) :
    Balanced c.text.toList := by
  induction c with
  | leaf predicate => exact (h predicate.text (List.mem_singleton_self _)).balanced
  | join connective left right ihl ihr =>
    have hm : Balanced (' ' :: (mark connective ++ [' '])) := by cases connective <;> decide
    have hr := balanced_operand (ihr h.right) connective
    have := (ihl h.left).append (hm.append hr)
    rw [toList_text_join]
    simpa using this

/-- A word that is nowhere in a text is none of its words. -/
theorem not_mem_tokens {connective : Connective} {text : String}
    (h : mentions connective.word text = false) : mark connective ∉ tokens text.toList := by
  intro hm
  have := (mentions_iff _ _).2 (isInfix_of_mem_tokens hm)
  rw [h] at this
  cases this

/-! ## The reading of a condition -/

section Reading

variable (v : String → Bool)

theorem products_operand {text : String} (h : Balanced text.toList) (connective : Connective) :
    products v (operand connective text).toList =
      if mentions connective.other.word text then [holds v text.toList]
      else products v text.toList := by
  cases mentioned : mentions connective.other.word text with
  | true => rw [operand_of_mentions mentioned, toList_bracketed, products_bracketed v h, if_pos rfl]
  | false => rw [operand_of_not_mentions mentioned, if_neg Bool.false_ne_true]

theorem holds_operand {text : String} (h : Balanced text.toList) (connective : Connective) :
    holds v (operand connective text).toList = holds v text.toList := by
  rw [holds_eq, products_operand v h]
  split
  · simp
  · rw [holds_eq]

/-- Behind AND a right operand is always one part: without brackets it has no OR. -/
theorem products_operand_and {text : String} (h : Balanced text.toList) :
    products v (operand .and text).toList = [holds v text.toList] := by
  rw [products_operand v h]
  split
  · rfl
  · rename_i hm
    exact products_of_not_mem v (not_mem_tokens (Bool.eq_false_iff.2 hm))

theorem products_leaf {predicate : Predicate} (h : IsFragment predicate.text) :
    products v (leaf predicate).text.toList = [v predicate.text] := by
  have hh := holds_of_not_mem v h.noConnective (inside_of_head h.noBracketBefore)
  rw [String.ofList_toList] at hh
  rw [← hh]
  exact products_of_not_mem v (h.noConnective .or)

variable {left right : Condition}

theorem products_and_text (hl : left.OfFragments) (hr : right.OfFragments) :
    products v (join .and left right).text.toList =
      weld (· && ·) (products v left.text.toList) [holds v right.text.toList] := by
  rw [toList_text_join, products_and v hl.balanced_text, products_operand_and v hr.balanced_text]

theorem products_or_text (hl : left.OfFragments) :
    products v (join .or left right).text.toList =
      products v left.text.toList ++ products v (operand .or right.text).toList := by
  rw [toList_text_join, products_or v hl.balanced_text]

end Reading

/-! ## Parts and the left spine -/

/-- A condition without an OR on its left spine is one part. -/
theorem products_of_not_orOnSpine {c : Condition} (h : c.OfFragments) (hs : c.orOnSpine = false)
    (v : String → Bool) : products v c.text.toList = [holds v c.text.toList] := by
  have one : (products v c.text.toList).length = 1 := by
    induction c with
    | leaf predicate => rw [products_leaf v (h _ (List.mem_singleton_self _))]; rfl
    | join connective left right ihl _ =>
      cases connective with
      | and =>
        have := ihl h.left hs
        rw [products_and_text v h.left h.right, length_weld_singleton _ (products_ne_nil _ _), this]
      | or => cases hs
  obtain ⟨x, hx⟩ := List.length_eq_one_iff.1 one
  rw [holds_eq, hx]
  simp

/-- A condition with an OR on its left spine has several parts. -/
theorem two_le_length_products {c : Condition} (h : c.OfFragments) (hs : c.orOnSpine = true)
    (v : String → Bool) : 2 ≤ (products v c.text.toList).length := by
  induction c with
  | leaf predicate => cases hs
  | join connective left right ihl _ =>
    cases connective with
    | and =>
      have := ihl h.left hs
      rwa [products_and_text v h.left h.right, length_weld_singleton _ (products_ne_nil _ _)]
    | or =>
      have hl := List.length_pos_iff.2 (products_ne_nil v left.text.toList)
      have hr := List.length_pos_iff.2 (products_ne_nil v (operand .or right.text).toList)
      rw [products_or_text v h.left, List.length_append]
      omega

/-- The reading of a condition from the readings of its operands. -/
theorem holds_text_join {connective : Connective} {left right : Condition}
    (h : (join connective left right).OfFragments)
    (hs : connective = .and → left.orOnSpine = false) (v : String → Bool) :
    holds v (join connective left right).text.toList =
      connective.apply (holds v left.text.toList) (holds v right.text.toList) := by
  rw [holds_eq]
  cases connective with
  | and =>
    rw [products_and_text v h.left h.right, products_of_not_orOnSpine h.left (hs rfl)]
    simp [weld, Connective.apply]
  | or =>
    rw [products_or_text v h.left, List.any_append, ← holds_eq, ← holds_eq,
      holds_operand v h.right.balanced_text]
    rfl

/-- Unless an AND splits an OR, the text of a condition means what the condition does. -/
theorem holds_text_of_not_splitsOr {c : Condition} (h : c.OfFragments) (hs : c.splitsOr = false)
    (v : String → Bool) : holds v c.text.toList = c.value v := by
  induction c with
  | leaf predicate =>
    rw [holds_eq, products_leaf v (h _ (List.mem_singleton_self _))]
    simp [value]
  | join connective left right ihl ihr =>
    simp only [splitsOr, Bool.or_eq_false_iff, Bool.and_eq_false_iff] at hs
    obtain ⟨⟨hc, hl⟩, hr⟩ := hs
    have spine : connective = .and → left.orOnSpine = false := by
      rintro rfl
      rcases hc with hc | hc
      · cases hc
      · exact hc
    rw [holds_text_join h spine, ihl h.left hl, ihr h.right hr, value]

/-! ## Valuations -/

theorem value_congr {v w : String → Bool} {c : Condition} (h : ∀ text ∈ c.leaves, v text = w text) :
    c.value v = c.value w := by
  induction c with
  | leaf predicate => exact h _ (List.mem_singleton_self _)
  | join connective left right ihl ihr =>
    rw [value, value, ihl fun text ht => h text (List.mem_append_left _ ht),
      ihr fun text ht => h text (List.mem_append_right _ ht)]

theorem products_congr {v w : String → Bool} {c : Condition} (hc : c.OfFragments)
    (h : ∀ text ∈ c.leaves, v text = w text) :
    products v c.text.toList = products w c.text.toList := by
  induction c with
  | leaf predicate =>
    have hf := hc _ (List.mem_singleton_self _)
    rw [products_leaf v hf, products_leaf w hf, h _ (List.mem_singleton_self _)]
  | join connective left right ihl ihr =>
    have hl := ihl hc.left fun text ht => h text (List.mem_append_left _ ht)
    have hr := ihr hc.right fun text ht => h text (List.mem_append_right _ ht)
    cases connective with
    | and =>
      rw [products_and_text v hc.left hc.right, products_and_text w hc.left hc.right, hl, holds_eq,
        holds_eq, hr]
    | or =>
      have hb := hc.right.balanced_text
      rw [products_or_text v hc.left, products_or_text w hc.left, hl, products_operand v hb,
        products_operand w hb, holds_eq, holds_eq, hr]

theorem holds_congr {v w : String → Bool} {c : Condition} (hc : c.OfFragments)
    (h : ∀ text ∈ c.leaves, v text = w text) : holds v c.text.toList = holds w c.text.toList := by
  rw [holds_eq, holds_eq, products_congr hc h]

theorem value_const {v : String → Bool} {b : Bool} {c : Condition}
    (h : ∀ text ∈ c.leaves, v text = b) : c.value v = b := by
  induction c with
  | leaf predicate => exact h _ (List.mem_singleton_self _)
  | join connective left right ihl ihr =>
    rw [value, ihl fun text ht => h text (List.mem_append_left _ ht),
      ihr fun text ht => h text (List.mem_append_right _ ht), connective.apply_self]

/-- When all leaves have one value, so has every part of the text. -/
theorem products_const {v : String → Bool} {b : Bool} {c : Condition} (hc : c.OfFragments)
    (h : ∀ text ∈ c.leaves, v text = b) : ∀ x ∈ products v c.text.toList, x = b := by
  induction c with
  | leaf predicate =>
    intro x hx
    rw [products_leaf v (hc _ (List.mem_singleton_self _)), List.mem_singleton] at hx
    rw [hx, h _ (List.mem_singleton_self _)]
  | join connective left right ihl ihr =>
    have hl := ihl hc.left fun text ht => h text (List.mem_append_left _ ht)
    have hr := ihr hc.right fun text ht => h text (List.mem_append_right _ ht)
    have whole := any_const (products_ne_nil v right.text.toList) hr
    rw [← holds_eq] at whole
    intro x hx
    cases connective with
    | and =>
      rw [products_and_text v hc.left hc.right, whole] at hx
      exact mem_weld_const (by cases b <;> rfl) hl (by simp) hx
    | or =>
      rw [products_or_text v hc.left, products_operand v hc.right.balanced_text,
        List.mem_append] at hx
      rcases hx with hx | hx
      · exact hl x hx
      · split at hx
        · rw [whole, List.mem_singleton] at hx
          exact hx
        · exact hr x hx

theorem holds_const {v : String → Bool} {b : Bool} {c : Condition} (hc : c.OfFragments)
    (h : ∀ text ∈ c.leaves, v text = b) : holds v c.text.toList = b := by
  rw [holds_eq]
  exact any_const (products_ne_nil _ _) (products_const hc h)

/-- The valuation that is `v` on some texts and `w` on all others. -/
def splice (texts : List String) (v w : String → Bool) : String → Bool :=
  fun text => if text ∈ texts then v text else w text

theorem splice_of_mem {texts : List String} {text : String} (v w : String → Bool)
    (h : text ∈ texts) : splice texts v w text = v text := if_pos h

theorem splice_of_not_mem {texts : List String} {text : String} (v w : String → Bool)
    (h : text ∉ texts) : splice texts v w text = w text := if_neg h

/-! ## Reading and value -/

/-- Where an AND splits an OR, some valuation tells the text of a condition from the condition. -/
theorem exists_holds_ne_value {c : Condition} (h : c.OfFragments) (hn : c.leaves.Nodup)
    (hs : c.splitsOr = true) : ∃ v, holds v c.text.toList ≠ c.value v := by
  induction c with
  | leaf predicate => cases hs
  | join connective left right ihl ihr =>
    obtain ⟨nl, nr, apart⟩ := List.nodup_append.1 hn
    have inLeft : ∀ v w, ∀ text ∈ left.leaves, splice left.leaves v w text = v text :=
      fun v w text ht => splice_of_mem v w ht
    have inRight : ∀ v w, ∀ text ∈ right.leaves, splice left.leaves v w text = w text :=
      fun v w text ht => splice_of_not_mem v w fun hl => apart text hl text ht rfl
    by_cases spine : connective = .and ∧ left.orOnSpine = true
    · -- all parts of the left operand hold, and the right operand only takes away the last
      obtain ⟨rfl, ho⟩ := spine
      refine ⟨splice left.leaves (fun _ => true) (fun _ => false), ?_⟩
      have hl := inLeft (fun _ => true) (fun _ => false)
      have hr := inRight (fun _ => true) (fun _ => false)
      have hv : (join .and left right).value (splice left.leaves (fun _ => true) fun _ => false) =
          false := by
        rw [value, value_const hl, value_const hr]
        rfl
      rw [hv, holds_eq, products_and_text _ h.left h.right,
        any_weld_true (products_const h.left hl) (two_le_length_products h.left ho _)]
      exact Bool.noConfusion
    · have hj : connective = .and → left.orOnSpine = false :=
        fun hc => Bool.eq_false_iff.2 fun ho => spine ⟨hc, ho⟩
      have operands : left.splitsOr = true ∨ right.splitsOr = true := by
        simp only [splitsOr, Bool.or_eq_true, Bool.and_eq_true, beq_iff_eq] at hs
        rcases hs with (hs | hs) | hs
        · exact absurd hs spine
        · exact Or.inl hs
        · exact Or.inr hs
      -- the other operand gets the value that leaves the result to this one
      rcases operands with ho | ho
      · obtain ⟨v, hv⟩ := ihl h.left nl ho
        refine ⟨splice left.leaves v (fun _ => connective.neutral), ?_⟩
        have hl := inLeft v fun _ => connective.neutral
        have hr := inRight v fun _ => connective.neutral
        rw [holds_text_join h hj, value, holds_congr h.left hl, value_congr hl,
          holds_const h.right hr, value_const hr, connective.apply_neutral,
          connective.apply_neutral]
        exact hv
      · obtain ⟨v, hv⟩ := ihr h.right nr ho
        refine ⟨splice left.leaves (fun _ => connective.neutral) v, ?_⟩
        have hl := inLeft (fun _ => connective.neutral) v
        have hr := inRight (fun _ => connective.neutral) v
        rw [holds_text_join h hj, value, holds_const h.left hl, value_const hl,
          holds_congr h.right hr, value_congr hr, connective.neutral_apply,
          connective.neutral_apply]
        exact hv

/-- **What the text of a condition means.**  It means what the condition does when no AND splits an
OR; and when one does and no leaf occurs twice, there is a valuation on which they differ.  So for
conditions in which no leaf occurs twice the two agree exactly when no AND splits an OR. -/
theorem reading_eq_value (c : Condition) (h : c.OfFragments) :
    (c.splitsOr = false → ∀ v, holds v c.text.toList = c.value v) ∧
    (c.leaves.Nodup → c.splitsOr = true → ∃ v, holds v c.text.toList ≠ c.value v) ∧
    (c.leaves.Nodup → ((∀ v, holds v c.text.toList = c.value v) ↔ c.splitsOr = false)) := by
  refine ⟨holds_text_of_not_splitsOr h, exists_holds_ne_value h, ?_⟩
  intro hn
  constructor
  · intro agree
    refine Bool.eq_false_iff.2 fun hs => ?_
    obtain ⟨v, hv⟩ := exists_holds_ne_value h hn hs
    exact hv (agree v)
  · exact holds_text_of_not_splitsOr h

/-- An AND behind an OR, with a word in a value that only looks like a connective. -/
def alternativesThenAnd : Condition :=
  ((leaf (.verbatim "a = 1")).or (leaf (.verbatim "fruit = 'ORANGE'"))).and
    (leaf (.verbatim "lower(x) = 'b'"))

/-- Bracketing only the right operand does not keep the OR together here. -/
theorem reading_ne_value_alternativesThenAnd :
    alternativesThenAnd.OfFragments ∧ alternativesThenAnd.leaves.Nodup ∧
      alternativesThenAnd.splitsOr = true ∧
      ∃ v, holds v alternativesThenAnd.text.toList ≠ alternativesThenAnd.value v := by
  have h : alternativesThenAnd.OfFragments := by decide
  have hn : alternativesThenAnd.leaves.Nodup := by decide
  have hs : alternativesThenAnd.splitsOr = true := by decide
  exact ⟨h, hn, hs, (reading_eq_value alternativesThenAnd h).2.1 hn hs⟩

end Condition

end SqlAssembly
