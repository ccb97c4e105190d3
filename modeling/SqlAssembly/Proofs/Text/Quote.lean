import Mathlib.Data.List.Forall2
import Mathlib.Data.List.Infix

/-!
# Text between quotes

* `marked` — the characters of a text, each with whether it stands between quotes.
* `leavesOpen` — whether the last quote of a text is still open at its end.
* `masked` — a text with nothing left between its quotes.
* `unbracketed` — a masked text without its round brackets.
* `Alike` — two texts that differ only in what stands between quotes, and possibly in round
  brackets outside of them.
* `Alike.masked_eq`, `Alike.unbracketed_eq` — such texts look the same once they are masked.
* `Alike.isInfix_iff` — without a difference in brackets, they mention the same words if what
  stands between their quotes does.
-/

set_option autoImplicit false

namespace SqlAssembly

/-- The characters of a text, each with whether it stands between quotes; `inside` says whether
a quote is open in front of them.  The quotes themselves stand outside. -/
def marked (inside : Bool) : List Char → List (Char × Bool)
  | [] => []
  | c :: rest =>
    if c = '\'' then (c, false) :: marked (!inside) rest else (c, inside) :: marked inside rest

/-- Whether the last quote of a text is still open at its end. -/
def leavesOpen : List Char → Bool
  | [] => false
  | c :: rest => (c == '\'') ^^ leavesOpen rest

/-- A text with nothing left between its quotes. -/
def masked (text : List Char) : List Char :=
  ((marked false text).filter fun m => !m.2).map Prod.fst

def isBracket (c : Char) : Bool := c == '(' || c == ')'

/-- A masked text without round brackets. -/
def unbracketed (text : List Char) : List Char := (masked text).filter fun c => !isBracket c

theorem marked_cons {c : Char} (h : c ≠ '\'') (inside : Bool) (rest : List Char) :
    marked inside (c :: rest) = (c, inside) :: marked inside rest := if_neg h

theorem marked_quote (inside : Bool) (rest : List Char) :
    marked inside ('\'' :: rest) = ('\'', false) :: marked (!inside) rest := if_pos rfl

/-- Without quotes the characters of a text stand all inside or all outside. -/
theorem marked_of_not_mem {text : List Char} (h : '\'' ∉ text) (inside : Bool)
    (rest : List Char) :
    marked inside (text ++ rest) = text.map (·, inside) ++ marked inside rest := by
  induction text with
  | nil => rfl
  | cons c text ih =>
    rw [List.mem_cons, not_or] at h
    rw [List.cons_append, marked_cons (Ne.symm h.1), ih h.2, List.map_cons, List.cons_append]

/-- A text between quotes, and what follows it. -/
theorem marked_segment {text : List Char} (h : '\'' ∉ text) (rest : List Char) :
    marked false ('\'' :: text ++ '\'' :: rest) =
      ('\'', false) :: text.map (·, true) ++ ('\'', false) :: marked false rest := by
  rw [List.cons_append, marked_quote, Bool.not_false, marked_of_not_mem h, marked_quote]
  rfl

theorem map_fst_marked (inside : Bool) (text : List Char) :
    (marked inside text).map Prod.fst = text := by
  induction text generalizing inside with
  | nil => rfl
  | cons c text ih =>
    unfold marked
    split <;> rw [List.map_cons, ih]

/-- What follows a text stands outside of quotes if the text leaves none open. -/
theorem marked_append (inside : Bool) (first second : List Char) :
    marked inside (first ++ second) =
      marked inside first ++ marked (inside ^^ leavesOpen first) second := by
  induction first generalizing inside with
  | nil => simp [marked, leavesOpen]
  | cons c first ih =>
    by_cases h : c = '\''
    · subst h
      rw [List.cons_append, marked_quote, marked_quote, ih, List.cons_append, leavesOpen]
      cases inside <;> simp
    · have hb : (c == '\'') = false := by simpa using h
      rw [List.cons_append, marked_cons h, marked_cons h, ih, List.cons_append, leavesOpen, hb,
        Bool.false_xor]

theorem leavesOpen_append (first second : List Char) :
    leavesOpen (first ++ second) = (leavesOpen first ^^ leavesOpen second) := by
  induction first with
  | nil => exact (Bool.false_xor _).symm
  | cons c first ih => rw [List.cons_append, leavesOpen, leavesOpen, ih, Bool.xor_assoc]

theorem leavesOpen_of_not_mem {text : List Char} (h : '\'' ∉ text) : leavesOpen text = false := by
  induction text with
  | nil => rfl
  | cons c text ih =>
    rw [List.mem_cons, not_or] at h
    have hb : (c == '\'') = false := by simpa using Ne.symm h.1
    rw [leavesOpen, ih h.2, hb, Bool.xor_false]

theorem masked_cons {c : Char} (h : c ≠ '\'') (rest : List Char) :
    masked (c :: rest) = c :: masked rest := by
  rw [masked, marked_cons h, List.filter_cons_of_pos rfl, List.map_cons, masked]

theorem masked_segment {text : List Char} (h : '\'' ∉ text) (rest : List Char) :
    masked ('\'' :: text ++ '\'' :: rest) = '\'' :: '\'' :: masked rest := by
  have hidden : (text.map (·, true)).filter (fun m : Char × Bool => !m.2) = [] := by
    simp
  rw [masked, marked_segment h, List.cons_append, List.filter_cons_of_pos rfl,
    List.filter_append, hidden, List.nil_append, List.filter_cons_of_pos rfl]
  rfl

theorem unbracketed_cons {c : Char} (h : c ≠ '\'') (rest : List Char) :
    unbracketed (c :: rest) = if isBracket c then unbracketed rest else c :: unbracketed rest := by
  rw [unbracketed, masked_cons h, unbracketed]
  by_cases hb : isBracket c = true <;> simp [hb]

theorem ne_quote_of_isBracket {c : Char} (h : isBracket c = true) : c ≠ '\'' := by
  rintro rfl
  cases h

theorem quote_not_mem_append {s t : String} (hs : '\'' ∉ s.toList) (ht : '\'' ∉ t.toList) :
    '\'' ∉ (s ++ t).toList := by
  rw [String.toList_append, List.mem_append, not_or]
  exact ⟨hs, ht⟩

/-- Where a separator has a property of characters, several texts in a row have it exactly when each
of them does. -/
theorem forall_mem_intercalate_iff {p : Char → Prop} {sep : List Char} (h : ∀ c ∈ sep, p c)
    (texts : List (List Char)) :
    (∀ c ∈ sep.intercalate texts, p c) ↔ ∀ text ∈ texts, ∀ c ∈ text, p c := by
  induction texts with
  | nil => simp
  | cons first rest ih =>
    cases rest with
    | nil => simp
    | cons second rest =>
      rw [List.intercalate_cons_cons, List.forall_mem_append, List.forall_mem_append, ih,
        and_iff_left h]
      exact (List.forall_mem_cons (p := fun text => ∀ c ∈ text, p c)).symm

theorem quote_not_mem_intercalate {sep : String} (hs : '\'' ∉ sep.toList) {texts : List String}
    (h : ∀ s ∈ texts, '\'' ∉ s.toList) : '\'' ∉ (sep.intercalate texts).toList := by
  have all : ∀ c ∈ (sep.intercalate texts).toList, c ≠ '\'' := by
    rw [String.toList_intercalate, forall_mem_intercalate_iff (List.forall_mem_ne'.2 hs),
      List.forall_mem_map]
    exact fun s listed => List.forall_mem_ne'.2 (h s listed)
  exact List.forall_mem_ne'.1 all

/-! ## Texts that look alike -/

/-- Two texts that are the same outside of quotes, where `loose` up to round brackets.  What
stands between the quotes of one is in the relation `hide` to what stands there in the other. -/
inductive Alike (loose : Prop) (hide : List Char → List Char → Prop) :
    List Char → List Char → Prop
  | nil : Alike loose hide [] []
  | char {c : Char} {a b : List Char} (outside : c ≠ '\'') (rest : Alike loose hide a b) :
    Alike loose hide (c :: a) (c :: b)
  | segment {s t a b : List Char} (hs : '\'' ∉ s) (ht : '\'' ∉ t) (hidden : hide s t)
    (rest : Alike loose hide a b) :
    Alike loose hide ('\'' :: s ++ '\'' :: a) ('\'' :: t ++ '\'' :: b)
  | left {c : Char} {a b : List Char} (allowed : loose) (bracket : isBracket c = true)
    (rest : Alike loose hide a b) : Alike loose hide (c :: a) b
  | right {c : Char} {a b : List Char} (allowed : loose) (bracket : isBracket c = true)
    (rest : Alike loose hide a b) : Alike loose hide a (c :: b)

namespace Alike

variable {loose : Prop} {hide : List Char → List Char → Prop} {a b a' b' : List Char}

theorem refl_of_not_mem (h : '\'' ∉ a) : Alike loose hide a a := by
  induction a with
  | nil => exact nil
  | cons c a ih =>
    rw [List.mem_cons, not_or] at h
    exact char (Ne.symm h.1) (ih h.2)

theorem append (h : Alike loose hide a b) (h' : Alike loose hide a' b') :
    Alike loose hide (a ++ a') (b ++ b') := by
  induction h with
  | nil => exact h'
  | char outside _ ih => exact char outside ih
  | segment hs ht hidden _ ih =>
    have := segment hs ht hidden ih
    simpa using this
  | left allowed bracket _ ih => exact left allowed bracket ih
  | right allowed bracket _ ih => exact right allowed bracket ih

theorem concat {s t s' t' : String} (h : Alike loose hide s.toList t.toList)
    (h' : Alike loose hide s'.toList t'.toList) :
    Alike loose hide (s ++ s').toList (t ++ t').toList := by
  rw [String.toList_append, String.toList_append]
  exact h.append h'

theorem behind {front s t : String} (hf : '\'' ∉ front.toList)
    (h : Alike loose hide s.toList t.toList) :
    Alike loose hide (front ++ s).toList (front ++ t).toList := (refl_of_not_mem hf).concat h

theorem before {s t back : String} (h : Alike loose hide s.toList t.toList)
    (hb : '\'' ∉ back.toList) :
    Alike loose hide (s ++ back).toList (t ++ back).toList := h.concat (refl_of_not_mem hb)

/-- Brackets around one of two texts, or around both. -/
theorem bracketed (h : Alike loose hide a b) :
    Alike loose hide ('(' :: a ++ [')']) ('(' :: b ++ [')']) :=
  char (by decide) (h.append (refl_of_not_mem (by decide)))

theorem bracketed_left (allowed : loose) (h : Alike loose hide a b) :
    Alike loose hide ('(' :: a ++ [')']) b := by
  have behind : Alike loose hide [')'] [] := left allowed rfl nil
  have := left (c := '(') allowed rfl (h.append behind)
  rwa [List.append_nil] at this

theorem bracketed_right (allowed : loose) (h : Alike loose hide a b) :
    Alike loose hide a ('(' :: b ++ [')']) := by
  have behind : Alike loose hide [] [')'] := right allowed rfl nil
  have := right (c := '(') allowed rfl (h.append behind)
  rwa [List.append_nil] at this

/-- Texts in a row, each of them alike to its counterpart. -/
theorem intercalate {sep : String} (hs : '\'' ∉ sep.toList) {texts texts' : List String}
    (h : List.Forall₂ (fun s t => Alike loose hide s.toList t.toList) texts texts') :
    Alike loose hide (sep.intercalate texts).toList (sep.intercalate texts').toList := by
  induction h with
  | nil => exact nil
  | cons first rest ih =>
    cases rest with
    | nil => simpa using first
    | cons _ _ =>
      simp only [String.intercalate_cons_cons] at ih ⊢
      exact (first.concat (refl_of_not_mem hs)).concat ih

theorem intercalate_map {sep : String} (hs : '\'' ∉ sep.toList) {α : Type} {f g : α → String}
    {items : List α} (h : ∀ x ∈ items, Alike loose hide (f x).toList (g x).toList) :
    Alike loose hide (sep.intercalate (items.map f)).toList
      (sep.intercalate (items.map g)).toList := by
  refine intercalate hs ?_
  rw [List.forall₂_map_left_iff, List.forall₂_map_right_iff, List.forall₂_same]
  exact h

/-- Alike texts look the same once they are masked and their brackets are gone. -/
theorem unbracketed_eq (h : Alike loose hide a b) : unbracketed a = unbracketed b := by
  induction h with
  | nil => rfl
  | char outside _ ih => rw [unbracketed_cons outside, unbracketed_cons outside, ih]
  | segment hs ht _ _ ih =>
    unfold unbracketed at ih ⊢
    rw [masked_segment hs, masked_segment ht, List.filter_cons_of_pos rfl,
      List.filter_cons_of_pos rfl, List.filter_cons_of_pos rfl, List.filter_cons_of_pos rfl, ih]
  | left _ bracket _ ih =>
    rw [unbracketed_cons (ne_quote_of_isBracket bracket), if_pos bracket, ih]
  | right _ bracket _ ih =>
    rw [unbracketed_cons (ne_quote_of_isBracket bracket), if_pos bracket, ih]

/-- Texts that are alike to the last bracket look the same once they are masked. -/
theorem masked_eq (h : Alike False hide a b) : masked a = masked b := by
  induction h with
  | nil => rfl
  | char outside _ ih => rw [masked_cons outside, masked_cons outside, ih]
  | segment hs ht _ _ ih => rw [masked_segment hs, masked_segment ht, ih]
  | left allowed => exact allowed.elim
  | right allowed => exact allowed.elim

end Alike

/-! ## Words in alike texts -/

/-- A word that lacks a character stands in front of it or behind it. -/
theorem isInfix_append_cons {w : List Char} {c : Char} (hc : c ∉ w) (first second : List Char) :
    w <:+: first ++ c :: second ↔ w <:+: first ∨ w <:+: second := by
  constructor
  · rw [List.infix_append_iff, List.infix_cons_iff]
    rintro (h | (h | h) | ⟨w₁, w₂, rfl, h₁, h₂⟩)
    · exact Or.inl h
    · cases w with
      | nil => exact Or.inl List.nil_infix
      | cons d w =>
        obtain ⟨rfl, -⟩ := List.cons_prefix_cons.1 h
        exact absurd (List.mem_cons_self ..) hc
    · exact Or.inr h
    · cases w₂ with
      | nil => exact Or.inl (by simpa using h₁.isInfix)
      | cons d w₂ =>
        obtain ⟨rfl, -⟩ := List.cons_prefix_cons.1 h₂
        exact absurd (by simp) hc
  · rintro (h | h)
    · exact h.trans (List.prefix_append _ _).isInfix
    · exact h.trans ((List.suffix_cons c second).trans (List.suffix_append _ _)).isInfix

namespace Alike

variable {hide : List Char → List Char → Prop} {a b w : List Char}

theorem isPrefix_iff (h : Alike False hide a b) (hw : '\'' ∉ w) : w <+: a ↔ w <+: b := by
  induction h generalizing w with
  | nil => rfl
  | char outside _ ih =>
    cases w with
    | nil => exact iff_of_true List.nil_prefix List.nil_prefix
    | cons d w =>
      rw [List.mem_cons, not_or] at hw
      rw [List.cons_prefix_cons, List.cons_prefix_cons, ih hw.2]
  | segment =>
    cases w with
    | nil => exact iff_of_true List.nil_prefix List.nil_prefix
    | cons d w =>
      rw [List.mem_cons, not_or] at hw
      simp only [List.cons_append, List.cons_prefix_cons, Ne.symm hw.1, false_and]
  | left allowed => exact allowed.elim
  | right allowed => exact allowed.elim

/-- A word without quotes stands in both of two alike texts or in none, if that holds of what
stands between their quotes. -/
theorem isInfix_iff (h : Alike False hide a b) (hw : '\'' ∉ w)
    (hh : ∀ s t, hide s t → (w <:+: s ↔ w <:+: t)) : w <:+: a ↔ w <:+: b := by
  induction h with
  | nil => rfl
  | char outside rest ih =>
    have start := (char outside rest).isPrefix_iff hw
    rw [List.infix_cons_iff, List.infix_cons_iff, start, ih]
  | @segment s t a b _ _ hidden _ ih =>
    have between : ∀ u rest : List Char,
        w <:+: '\'' :: u ++ '\'' :: rest ↔ w <:+: u ∨ w <:+: rest := by
      intro u rest
      have front : w <:+: '\'' :: u ↔ w <:+: ([] : List Char) ∨ w <:+: u :=
        isInfix_append_cons hw [] u
      have empty : w <:+: ([] : List Char) → w <:+: u := fun hn => hn.trans List.nil_infix
      rw [isInfix_append_cons hw, front, or_iff_right_of_imp empty]
    rw [between, between, hh s t hidden, ih]
  | left allowed => exact allowed.elim
  | right allowed => exact allowed.elim

end Alike

end SqlAssembly
