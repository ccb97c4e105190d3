import SqlAssembly.Condition
import SqlAssembly.Proofs.Text.Cut

/-!
# Reading a condition

How a text is read as a condition by the rules of SQL: brackets group, AND binds tighter than OR,
and a word AND or OR is a connective only where it stands by itself between spaces and outside of
all brackets.  The reading knows nothing of how conditions are written.

* `holds` — whether a text holds when `v` says which of its fragments do.
* `products` — the parts of a text between its ORs, each with its value.
* `products_or`, `products_and` — two texts with a connective between them: OR puts their parts
  in a row, and AND welds the last part of the first to the first part of the second.
-/

set_option autoImplicit false

namespace SqlAssembly.Reading

/-- A connective as it is looked for among words. -/
def mark (connective : Connective) : List Char := connective.word.toList

/-- Whether a text holds when `v` says which of its fragments do.  The text is cut at OR, its
parts are cut at AND, and of a part in brackets it is the inside that is read. -/
def holds (v : String → Bool) (text : List Char) : Bool :=
  (cut (mark .or) 0 (tokens text)).attach.any fun ⟨product, _⟩ =>
    (cut (mark .and) 0 product).attach.all fun ⟨factor, _⟩ =>
      match _ : inside (phrase factor) with
      | some inner => holds v inner
      | none => v (String.ofList (phrase factor))
termination_by text.length
decreasing_by
  rename_i hp hf hi
  have hw := (phrase_isInfix (isInfix_of_mem_cut hp)).length_le
  have hl := (phrase_isInfix (isInfix_of_mem_cut hf)).length_le
  have := length_of_inside hi
  rw [phrase_tokens] at hw
  omega

/-- The value of a part between connectives. -/
def factor (v : String → Bool) (ws : List (List Char)) : Bool :=
  match inside (phrase ws) with
  | some inner => holds v inner
  | none => v (String.ofList (phrase ws))

/-- The value of a part between ORs. -/
def product (v : String → Bool) (ws : List (List Char)) : Bool :=
  (cut (mark .and) 0 ws).all (factor v)

/-- The parts of a text between its ORs, each with its value. -/
def products (v : String → Bool) (text : List Char) : List Bool :=
  (cut (mark .or) 0 (tokens text)).map (product v)

/-- A text holds when one of its parts does. -/
theorem holds_eq (v : String → Bool) (text : List Char) :
    holds v text = (products v text).any id := by
  rw [holds, products, List.any_map]
  have hf : ∀ ws : List (List Char), (match _ : inside (phrase ws) with
      | some inner => holds v inner
      | none => v (String.ofList (phrase ws))) = factor v ws := by
    intro ws
    unfold factor
    split <;> split <;> simp_all
  simp only [hf, List.all_subtype, List.any_subtype, List.unattach_attach]
  rfl

theorem any_const {b : Bool} {xs : List Bool} (hn : xs ≠ []) (h : ∀ x ∈ xs, x = b) :
    xs.any id = b := by
  cases xs with
  | nil => exact absurd rfl hn
  | cons x xs =>
    have hx := h x (List.mem_cons_self ..)
    cases b with
    | true => rw [List.any_cons, hx]; rfl
    | false =>
      rw [List.any_eq_false]
      intro y hy
      rw [h y hy]
      exact Bool.false_ne_true

/-- Behind several parts that hold, AND takes away only the last. -/
theorem any_weld_true {f : Bool → Bool → Bool} {xs ys : List Bool} (h : ∀ x ∈ xs, x = true)
    (two : 2 ≤ xs.length) : (weld f xs ys).any id = true := by
  match xs with
  | [] => exact absurd two (by decide)
  | [x] => exact absurd two (by simp)
  | x :: x' :: xs =>
    rw [weld_cons (List.cons_ne_nil _ _), List.any_cons, h x (List.mem_cons_self ..)]
    rfl

/-- In front of several parts that hold, AND takes away only the first. -/
theorem any_weld_true_right {f : Bool → Bool → Bool} {ys : List Bool} (h : ∀ y ∈ ys, y = true)
    (two : 2 ≤ ys.length) (xs : List Bool) : (weld f xs ys).any id = true := by
  match xs with
  | [] =>
    refine any_const ?_ h
    rintro rfl
    exact absurd two (by decide)
  | [x] =>
    match ys with
    | [] => exact absurd two (by decide)
    | [y] => exact absurd two (by simp)
    | y :: y' :: ys =>
      rw [weld_singleton_cons, List.any_cons, List.any_cons, h y' (by simp)]
      simp
  | x :: x' :: xs =>
    have := any_weld_true_right h two (x' :: xs) (f := f)
    rw [weld_cons (List.cons_ne_nil _ _), List.any_cons, this, Bool.or_true]

/-- When two texts hold, so do their welded parts: either a part that is kept holds, or both of
those that meet do. -/
theorem any_weld_and {xs ys : List Bool} (hx : xs.any id = true) (hy : ys.any id = true) :
    (weld (· && ·) xs ys).any id = true := by
  induction xs with
  | nil => cases hx
  | cons x xs ih =>
    cases xs with
    | nil =>
      cases ys with
      | nil => cases hy
      | cons y ys =>
        have hx : x = true := by simpa using hx
        rw [weld_singleton_cons, hx, Bool.true_and]
        exact hy
    | cons x' xs =>
      rw [weld_cons (List.cons_ne_nil _ _), List.any_cons, Bool.or_eq_true]
      rw [List.any_cons, Bool.or_eq_true] at hx
      exact hx.imp_right ih

/-! ## Two texts with a connective between them -/

section Connectives

variable (v : String → Bool)

theorem balance_mark (connective : Connective) : balance (mark connective) = 0 := by
  cases connective <;> decide

theorem tokens_connective (connective : Connective) (first second : List Char) :
    tokens (first ++ ' ' :: (mark connective ++ ' ' :: second)) =
      tokens first ++ mark connective :: tokens second := by
  have alone : tokens (mark connective) = [mark connective] := by
    refine tokens_of_not_mem ?_
    cases connective <;> decide
  rw [tokens_append, tokens_append, alone, List.singleton_append]

theorem products_ne_nil (text : List Char) : products v text ≠ [] := by
  unfold products
  rw [ne_eq, List.map_eq_nil_iff]
  exact cut_ne_nil _ _ _

/-- OR puts the parts of two texts in a row. -/
theorem products_or {first : List Char} (h : Balanced first) (second : List Char) :
    products v (first ++ ' ' :: (mark .or ++ ' ' :: second)) =
      products v first ++ products v second := by
  have hd : (0 : Int) + balance (tokens first).flatten = 0 := by
    rw [balance_tokens, h.1]
    rfl
  unfold products
  rw [tokens_connective, cut_append_cut (balance_mark _) hd, List.map_append]

/-- AND welds the last part of the first text to the first part of the second. -/
theorem products_and {first : List Char} (h : Balanced first) (second : List Char) :
    products v (first ++ ' ' :: (mark .and ++ ' ' :: second)) =
      weld (· && ·) (products v first) (products v second) := by
  have hb : balance (tokens first).flatten = 0 := by rw [balance_tokens, h.1]
  have hd : (0 : Int) + balance (tokens first).flatten + balance (mark .and) = 0 := by
    rw [hb, balance_mark]
    rfl
  have hm : ¬ ((0 : Int) + balance (tokens first).flatten = 0 ∧ mark .and = mark .or) := by
    rintro ⟨-, hm⟩
    exact absurd hm (by decide)
  unfold products
  rw [tokens_connective, cut_append_word (balance_mark _) hm, hd]
  refine map_weld ?_
  intro before hp behind
  have hz : (0 : Int) + balance before.flatten = 0 := by
    rw [balance_of_mem_cut (balance_mark _) hb hp]
    rfl
  rw [product, cut_append_cut (balance_mark _) hz, List.all_append]
  rfl

/-- A text without the word OR is one part. -/
theorem products_of_not_mem {text : List Char} (h : mark .or ∉ tokens text) :
    products v text = [holds v text] := by
  have hc : products v text = [product v (tokens text)] := by
    rw [products, cut_of_not_mem h]
    rfl
  rw [holds_eq, hc]
  simp

/-- A text without connectives is a fragment, unless it is in brackets. -/
theorem holds_of_not_mem {text : List Char} (h : ∀ connective, mark connective ∉ tokens text)
    (hb : inside text = none) : holds v text = v (String.ofList text) := by
  have hf : factor v (tokens text) = v (String.ofList text) := by
    unfold factor
    rw [phrase_tokens, hb]
  rw [holds_eq, products, cut_of_not_mem (h .or), List.map_singleton, product,
    cut_of_not_mem (h .and)]
  simp [hf]

/-- A balanced text in brackets is one part and has the value of what the brackets enclose. -/
theorem products_bracketed {text : List Char} (h : Balanced text) :
    products v ('(' :: text ++ [')']) = [holds v text] := by
  have hc : ∀ connective : Connective,
      cut (mark connective) 0 (tokens ('(' :: text ++ [')'])) =
        [tokens ('(' :: text ++ [')'])] := by
    intro connective
    cases connective
    · exact cut_bracketed (c := 'A') (by decide) h
    · exact cut_bracketed (c := 'O') (by decide) h
  have hf : factor v (tokens ('(' :: text ++ [')'])) = holds v text := by
    unfold factor
    rw [phrase_tokens, inside_bracketed h]
  rw [products, hc, List.map_singleton, product, hc, List.all_cons, hf, List.all_nil,
    Bool.and_true]

end Connectives

end SqlAssembly.Reading
