import SqlAssembly.Proofs.Condition.Composition
import SqlAssembly.Statement.Join

/-!
# What the conditions of a join mean together

The conditions of a join stand side by side with AND between them, and none is bracketed.  Where
the parts of two neighbours meet, AND welds them, so an OR outside of brackets takes the others
apart.

* `Join.conjunction` — the conditions as they stand behind ON.
* `holds_conjunction_of_all` — the text holds whenever all conditions do.
* `products_conjunction` — without an OR outside of brackets it holds only then.
* `exists_holds_conjunction` — with one, some valuation makes the text hold and a condition fail.
-/

set_option autoImplicit false

namespace SqlAssembly.Join

open Reading Condition

/-- The conditions of a join as they stand behind ON. -/
def conjunction (conditions : List Condition) : String :=
  " AND ".intercalate (conditions.map Condition.text)

theorem sql_of_ne_nil {j : Join} (h : j.conditions ≠ []) :
    j.sql = j.kind.words ++ " " ++ j.table.sql ++ " ON " ++ conjunction j.conditions := by
  have he : j.conditions.isEmpty = false := by simpa using h
  rw [sql, on, he, conjunction]
  simp only [Bool.false_eq_true, if_false, String.append_assoc]

theorem conjunction_singleton (c : Condition) : conjunction [c] = c.text := by simp [conjunction]

theorem toList_conjunction_append {before behind : List Condition} (hb : before ≠ [])
    (hn : behind ≠ []) :
    (conjunction (before ++ behind)).toList =
      (conjunction before).toList ++ ' ' :: (mark .and ++ ' ' :: (conjunction behind).toList) := by
  have hs : " AND ".toList = ' ' :: (mark .and ++ [' ']) := by decide
  unfold conjunction
  rw [List.map_append, String.intercalate_append_of_ne_nil (by simpa using hb) (by simpa using hn)]
  simp only [String.toList_append, hs]
  simp

variable {conditions before behind : List Condition}

theorem balanced_conjunction (h : ∀ c ∈ conditions, c.OfFragments) :
    Balanced (conjunction conditions).toList := by
  induction conditions with
  | nil => decide
  | cons c rest ih =>
    have hc := (h c (List.mem_cons_self ..)).balanced_text
    by_cases hr : rest = []
    · rw [hr, conjunction_singleton]
      exact hc
    · have hm : Balanced (' ' :: (mark .and ++ [' '])) := by decide
      have := hc.append (hm.append (ih fun d hd => h d (List.mem_cons_of_mem c hd)))
      rw [← List.singleton_append, toList_conjunction_append (List.cons_ne_nil _ _) hr,
        conjunction_singleton]
      simpa using this

/-- Two runs of conditions meet in one part. -/
theorem products_conjunction_append (v : String → Bool) (hb : before ≠ []) (hn : behind ≠ [])
    (h : ∀ c ∈ before, c.OfFragments) :
    products v (conjunction (before ++ behind)).toList =
      weld (· && ·) (products v (conjunction before).toList)
        (products v (conjunction behind).toList) := by
  rw [toList_conjunction_append hb hn, products_and v (balanced_conjunction h)]

theorem products_conjunction_cons (v : String → Bool) {c : Condition} (hn : behind ≠ [])
    (h : c.OfFragments) :
    products v (conjunction (c :: behind)).toList =
      weld (· && ·) (products v c.text.toList) (products v (conjunction behind).toList) := by
  have hc : ∀ d ∈ [c], d.OfFragments := by
    intro d hd
    rw [List.mem_singleton.1 hd]
    exact h
  have := products_conjunction_append v (List.cons_ne_nil c []) hn hc
  rwa [List.singleton_append, conjunction_singleton] at this

/-- A condition that holds and a text that holds weld to a text that holds. -/
theorem holds_conjunction_of_all (h : ∀ c ∈ conditions, c.OfFragments) (hn : conditions ≠ [])
    (v : String → Bool) (all : ∀ c ∈ conditions, holds v c.text.toList = true) :
    holds v (conjunction conditions).toList = true := by
  induction conditions with
  | nil => exact absurd rfl hn
  | cons c rest ih =>
    have hc := all c (List.mem_cons_self ..)
    by_cases hr : rest = []
    · rw [hr, conjunction_singleton, hc]
    · have := ih (fun d hd => h d (List.mem_cons_of_mem c hd)) hr
        fun d hd => all d (List.mem_cons_of_mem c hd)
      rw [holds_eq] at this hc ⊢
      rw [products_conjunction_cons v hr (h c (List.mem_cons_self ..))]
      exact any_weld_and hc this

/-- Conditions without an OR outside of brackets are one part together. -/
theorem products_conjunction (h : ∀ c ∈ conditions, c.OfFragments) (hn : conditions ≠ [])
    (hs : ∀ c ∈ conditions, c.orOnSpine = false) (v : String → Bool) :
    products v (conjunction conditions).toList =
      [conditions.all fun c => holds v c.text.toList] := by
  induction conditions with
  | nil => exact absurd rfl hn
  | cons c rest ih =>
    have hc := products_of_not_orOnSpine (h c (List.mem_cons_self ..))
      (hs c (List.mem_cons_self ..)) v
    by_cases hr : rest = []
    · rw [hr, conjunction_singleton, hc]
      simp
    · have := ih (fun d hd => h d (List.mem_cons_of_mem c hd)) hr
        fun d hd => hs d (List.mem_cons_of_mem c hd)
      rw [products_conjunction_cons v hr (h c (List.mem_cons_self ..)), hc, this, List.all_cons]
      rfl

theorem holds_conjunction_iff (h : ∀ c ∈ conditions, c.OfFragments) (hn : conditions ≠ [])
    (hs : conditions.length = 1 ∨ ∀ c ∈ conditions, c.orOnSpine = false) (v : String → Bool) :
    holds v (conjunction conditions).toList = true ↔
      ∀ c ∈ conditions, holds v c.text.toList = true := by
  rcases hs with one | hs
  · obtain ⟨c, rfl⟩ := List.length_eq_one_iff.1 one
    rw [conjunction_singleton]
    simp
  · rw [holds_eq, products_conjunction h hn hs]
    simp

/-! ## An OR outside of brackets -/

theorem two_le_length_products_conjunction (h : ∀ c ∈ before, c.OfFragments) {c : Condition}
    (hc : c.OfFragments) (hs : c.orOnSpine = true) (v : String → Bool) :
    2 ≤ (products v (conjunction (before ++ [c])).toList).length := by
  have two := two_le_length_products hc hs v
  by_cases hb : before = []
  · rw [hb, List.nil_append, conjunction_singleton]
    exact two
  · rw [products_conjunction_append v hb (List.cons_ne_nil c []) h, conjunction_singleton]
    have := le_length_weld (· && ·) (products v (conjunction before).toList)
      (products v c.text.toList)
    omega

theorem products_conjunction_const {v : String → Bool} {b : Bool}
    (h : ∀ c ∈ conditions, c.OfFragments) (hn : conditions ≠ [])
    (hv : ∀ text ∈ conditions.flatMap leaves, v text = b) :
    ∀ x ∈ products v (conjunction conditions).toList, x = b := by
  induction conditions with
  | nil => exact absurd rfl hn
  | cons c rest ih =>
    rw [List.flatMap_cons] at hv
    have hc := products_const (h c (List.mem_cons_self ..))
      fun text ht => hv text (List.mem_append_left _ ht)
    by_cases hr : rest = []
    · rw [hr, conjunction_singleton]
      exact hc
    · have := ih (fun d hd => h d (List.mem_cons_of_mem c hd)) hr
        fun text ht => hv text (List.mem_append_right _ ht)
      rw [products_conjunction_cons v hr (h c (List.mem_cons_self ..))]
      intro x hx
      exact mem_weld_const (by cases b <;> rfl) hc this hx

theorem exists_holds_false {v : String → Bool} (h : ∀ c ∈ conditions, c.OfFragments)
    (hn : conditions ≠ []) (hv : ∀ text ∈ conditions.flatMap leaves, v text = false) :
    ∃ c ∈ conditions, holds v c.text.toList = false := by
  obtain ⟨c, rest, rfl⟩ := List.exists_cons_of_ne_nil hn
  have hc := List.mem_cons_self (a := c) (l := rest)
  refine ⟨c, hc, holds_const (h c hc) ?_⟩
  exact fun text ht => hv text (List.mem_flatMap.2 ⟨c, hc, ht⟩)

/-- When no leaf occurs twice, two runs of conditions can have opposite leaves. -/
theorem exists_opposite (hn : ((before ++ behind).flatMap leaves).Nodup) (b : Bool) :
    ∃ v : String → Bool, (∀ text ∈ before.flatMap leaves, v text = b) ∧
      ∀ text ∈ behind.flatMap leaves, v text = !b := by
  rw [List.flatMap_append] at hn
  obtain ⟨-, -, apart⟩ := List.nodup_append.1 hn
  refine ⟨splice (before.flatMap leaves) (fun _ => b) (fun _ => !b), ?_, ?_⟩
  · exact fun text ht => splice_of_mem _ _ ht
  · exact fun text ht => splice_of_not_mem _ _ fun hb => apart text hb text ht rfl

/-- An OR outside of brackets takes the other conditions apart. -/
theorem exists_holds_conjunction (h : ∀ c ∈ conditions, c.OfFragments)
    (hn : (conditions.flatMap leaves).Nodup) (two : 2 ≤ conditions.length)
    (hs : ∃ c ∈ conditions, c.orOnSpine = true) :
    ∃ v, holds v (conjunction conditions).toList = true ∧
      ∃ c ∈ conditions, holds v c.text.toList = false := by
  obtain ⟨c, hc, hs⟩ := hs
  obtain ⟨before, behind, rfl⟩ := List.append_of_mem hc
  have hb : ∀ d ∈ before, d.OfFragments := fun d hd => h d (List.mem_append_left _ hd)
  have hcf := h c hc
  have split : before ++ c :: behind = before ++ [c] ++ behind := by simp
  by_cases last : behind = []
  · -- what is in front of the OR goes with its first part only, and its last part is left
    subst last
    have nonempty : before ≠ [] := by
      rintro rfl
      exact absurd two (by simp)
    obtain ⟨v, hf, ht⟩ := exists_opposite hn false
    rw [List.flatMap_singleton] at ht
    have hp := products_const hcf ht
    obtain ⟨d, hd, hx⟩ := exists_holds_false hb nonempty hf
    refine ⟨v, ?_, d, List.mem_append_left _ hd, hx⟩
    rw [holds_eq, products_conjunction_append v nonempty (List.cons_ne_nil c []) hb,
      conjunction_singleton]
    exact any_weld_true_right hp (two_le_length_products hcf hs v) _
  · -- what is behind the OR goes with its last part only, and its first part is left
    rw [split] at h hn ⊢
    have hf : ∀ d ∈ before ++ [c], d.OfFragments := fun d hd => h d (List.mem_append_left _ hd)
    obtain ⟨v, ht, hv⟩ := exists_opposite hn true
    have hp := products_conjunction_const hf (by simp) ht
    obtain ⟨d, hd, hx⟩ :=
      exists_holds_false (fun d hd => h d (List.mem_append_right _ hd)) last hv
    refine ⟨v, ?_, d, List.mem_append_right _ hd, hx⟩
    rw [holds_eq, products_conjunction_append v (by simp) last hf]
    exact any_weld_true hp (two_le_length_products_conjunction hb hcf hs v)

/-- **What a join is joined on.**  The text behind ON holds whenever every condition does.  It
holds only then if there is one condition, or none has an OR outside of brackets.  If there are
several, one has such an OR and no leaf occurs twice, then for some valuation the text holds and a
condition fails. -/
theorem reading_of_join (j : Join) (hn : j.conditions ≠ [])
    (h : ∀ c ∈ j.conditions, c.OfFragments) :
    ∃ text : String,
      j.sql = j.kind.words ++ " " ++ j.table.sql ++ " ON " ++ text ∧
      (∀ v, (∀ c ∈ j.conditions, holds v c.text.toList = true) → holds v text.toList = true) ∧
      (j.conditions.length = 1 ∨ (∀ c ∈ j.conditions, c.orOnSpine = false) →
        ∀ v, holds v text.toList = true ↔ ∀ c ∈ j.conditions, holds v c.text.toList = true) ∧
      ((j.conditions.flatMap leaves).Nodup → 2 ≤ j.conditions.length →
        (∃ c ∈ j.conditions, c.orOnSpine = true) →
        ∃ v, holds v text.toList = true ∧ ∃ c ∈ j.conditions, holds v c.text.toList = false) := by
  refine ⟨conjunction j.conditions, sql_of_ne_nil hn, ?_, ?_, ?_⟩
  · exact holds_conjunction_of_all h hn
  · exact holds_conjunction_iff h hn
  · exact exists_holds_conjunction h

/-- A join with an OR outside of brackets in its first condition. -/
def onAlternatives : Join :=
  ⟨.inner, Table.named "orders",
    [(leaf (.verbatim "a = 1")).or (leaf (.verbatim "b = 2")), leaf (.verbatim "c = 3")]⟩

theorem reading_of_join_onAlternatives :
    onAlternatives.conditions ≠ [] ∧ (∀ c ∈ onAlternatives.conditions, c.OfFragments) ∧
      ∃ text : String,
        onAlternatives.sql = "INNER JOIN" ++ " " ++ "orders" ++ " ON " ++ text ∧
        ∃ v, holds v text.toList = true ∧
          ∃ c ∈ onAlternatives.conditions, holds v c.text.toList = false := by
  have hn : onAlternatives.conditions ≠ [] := List.cons_ne_nil _ _
  have h : ∀ c ∈ onAlternatives.conditions, c.OfFragments := by decide
  obtain ⟨text, hs, -, -, hx⟩ := reading_of_join onAlternatives hn h
  have hd : (onAlternatives.conditions.flatMap leaves).Nodup := by decide
  exact ⟨hn, h, text, hs, hx hd (by decide) (by decide)⟩

/-- The conditions of a join do not always stand for all of them: here the text holds on the
strength of `a = 1` alone. -/
theorem onAlternatives_is_no_conjunction :
    onAlternatives.conditions ≠ [] ∧ (∀ c ∈ onAlternatives.conditions, c.OfFragments) ∧
      onAlternatives.sql = "INNER JOIN orders ON a = 1 OR b = 2 AND c = 3" ∧
      ¬ ∀ v, holds v "a = 1 OR b = 2 AND c = 3".toList = true ↔
        ∀ c ∈ onAlternatives.conditions, holds v c.text.toList = true := by
  refine ⟨List.cons_ne_nil _ _, by decide, by decide, ?_⟩
  intro all
  have whole : holds (fun text => text = "a = 1") "a = 1 OR b = 2 AND c = 3".toList = true := by
    cbv
  have part := (all _).1 whole (leaf (.verbatim "c = 3")) (by decide)
  have fails : holds (fun text => text = "a = 1") "c = 3".toList = false := by cbv
  exact Bool.noConfusion (part.symm.trans fails)

end SqlAssembly.Join
