import Mathlib.Data.List.Basic
import SqlAssembly.Proofs.Text.Bracket

/-!
# Cutting a text at a word

* `tokens`, `phrase` — the words of a text, and the text of words.
* `weld` — two lists in a row with the two items that meet made one.
* `cut` — words cut at a word wherever it stands outside of brackets.
* `cut_append_cut`, `cut_append_word` — words with one more word between them: cutting at it puts
  the parts in a row, and cutting at another word welds them.
* `cut_bracketed` — what stands in brackets is one part.
-/

set_option autoImplicit false

namespace SqlAssembly.Reading

/-! ## Words -/

/-- The words of a text: what stands between its spaces. -/
def tokens (text : List Char) : List (List Char) := text.splitOn ' '

/-- Words with a space between any two of them. -/
def phrase (ws : List (List Char)) : List Char := [' '].intercalate ws

theorem phrase_tokens (text : List Char) : phrase (tokens text) = text :=
  List.intercalate_splitOn ' '

theorem tokens_append (first second : List Char) :
    tokens (first ++ ' ' :: second) = tokens first ++ tokens second :=
  List.splitOn_append_cons_self first second

theorem tokens_of_not_mem {text : List Char} (h : ' ' ∉ text) : tokens text = [text] :=
  List.splitOn_eq_singleton h

theorem phrase_append {first second : List (List Char)} (hf : first ≠ []) (hs : second ≠ []) :
    phrase (first ++ second) = phrase first ++ ' ' :: phrase second := by
  unfold phrase
  induction first with
  | nil => exact absurd rfl hf
  | cons w first ih =>
    cases first with
    | nil =>
      rw [List.singleton_append, List.intercalate_cons_of_ne_nil hs, List.intercalate_singleton]
      simp
    | cons w' first =>
      have := ih (List.cons_ne_nil _ _)
      rw [List.cons_append, List.intercalate_cons_of_ne_nil (by simp), this,
        List.intercalate_cons_of_ne_nil (List.cons_ne_nil _ _)]
      simp only [List.append_assoc]

theorem isPrefix_phrase (w : List Char) (ws : List (List Char)) : w <+: phrase (w :: ws) := by
  by_cases hw : ws = []
  · rw [hw, phrase, List.intercalate_singleton]
  · rw [← List.singleton_append, phrase_append (List.cons_ne_nil _ _) hw, phrase,
      List.intercalate_singleton]
    exact List.prefix_append _ _

/-- Words in a row are a contiguous part of the text. -/
theorem phrase_isInfix {part ws : List (List Char)} (h : part <:+: ws) :
    phrase part <:+: phrase ws := by
  obtain ⟨before, behind, rfl⟩ := h
  by_cases hp : part = []
  · subst hp
    exact List.nil_infix
  have hleft : phrase part <:+: phrase (before ++ part) := by
    by_cases hb : before = []
    · rw [hb]
      exact List.infix_refl _
    · rw [phrase_append hb hp]
      exact ⟨phrase before ++ [' '], [], by simp⟩
  refine hleft.trans ?_
  by_cases hb : behind = []
  · rw [hb, List.append_nil]
  · rw [phrase_append (by simp [hp]) hb]
    exact (List.prefix_append _ _).isInfix

theorem isInfix_of_mem_tokens {w text : List Char} (h : w ∈ tokens text) : w <:+: text := by
  obtain ⟨before, behind, hw⟩ := List.append_of_mem h
  have hi : [w] <:+: tokens text := ⟨before, behind, by rw [hw]; simp⟩
  have := phrase_isInfix hi
  rwa [phrase_tokens, phrase, List.intercalate_singleton] at this

/-- Spaces are no brackets. -/
theorem balance_phrase (ws : List (List Char)) : balance (phrase ws) = balance ws.flatten := by
  induction ws with
  | nil => rfl
  | cons w ws ih =>
    by_cases hw : ws = []
    · subst hw
      simp [phrase]
    · have hs : balance [' '] = 0 := rfl
      have hp := phrase_append (List.cons_ne_nil w []) hw
      rw [List.singleton_append] at hp
      rw [hp, balance_append, balance_cons, ih, List.flatten_cons, balance_append, hs, phrase,
        List.intercalate_singleton]
      omega

theorem balance_tokens (text : List Char) : balance (tokens text).flatten = balance text := by
  rw [← balance_phrase, phrase_tokens]

/-! ## Welding -/

section Weld

variable {α β : Type}

/-- Two lists in a row, with the last item of the first and the first item of the second made
one. -/
def weld (f : α → α → α) : List α → List α → List α
  | [], ys => ys
  | [x], ys => ys.modifyHead (f x)
  | x :: x' :: xs, ys => x :: weld f (x' :: xs) ys

theorem weld_singleton_cons (f : α → α → α) (x y : α) (ys : List α) :
    weld f [x] (y :: ys) = f x y :: ys := rfl

theorem weld_cons {f : α → α → α} {xs : List α} (h : xs ≠ []) (x : α) (ys : List α) :
    weld f (x :: xs) ys = x :: weld f xs ys := by
  cases xs with
  | nil => exact absurd rfl h
  | cons x' xs => rfl

theorem map_weld {f : α → α → α} {f' : β → β → β} {g : α → β} {xs ys : List α}
    (h : ∀ x ∈ xs, ∀ y, g (f x y) = f' (g x) (g y)) :
    (weld f xs ys).map g = weld f' (xs.map g) (ys.map g) := by
  induction xs with
  | nil => rfl
  | cons x xs ih =>
    cases xs with
    | nil =>
      cases ys with
      | nil => rfl
      | cons y ys =>
        have := h x (List.mem_singleton_self x) y
        simp [weld, this]
    | cons x' xs =>
      have := ih fun z hz => h z (List.mem_cons_of_mem x hz)
      rw [weld_cons (List.cons_ne_nil _ _), List.map_cons, this]
      rfl

/-- What is done to the first item can be done before or after the welding. -/
theorem modifyHead_weld {f : α → α → α} {g : α → α} (h : ∀ x y, g (f x y) = f (g x) y)
    {xs : List α} (hx : xs ≠ []) (ys : List α) :
    (weld f xs ys).modifyHead g = weld f (xs.modifyHead g) ys := by
  match xs with
  | [] => exact absurd rfl hx
  | [x] =>
    cases ys with
    | nil => rfl
    | cons y ys => simp [weld, h]
  | x :: x' :: xs => rfl

theorem length_weld_singleton (f : α → α → α) {xs : List α} (h : xs ≠ []) (y : α) :
    (weld f xs [y]).length = xs.length := by
  match xs with
  | [] => exact absurd rfl h
  | [x] => rfl
  | x :: x' :: xs =>
    have := length_weld_singleton f (List.cons_ne_nil x' xs) y
    rw [weld_cons (List.cons_ne_nil _ _), List.length_cons, this]
    rfl

theorem le_length_weld (f : α → α → α) (xs ys : List α) : ys.length ≤ (weld f xs ys).length := by
  match xs with
  | [] => exact Nat.le_refl _
  | [x] => simp [weld]
  | x :: x' :: xs =>
    have := le_length_weld f (x' :: xs) ys
    rw [weld_cons (List.cons_ne_nil _ _), List.length_cons]
    omega

/-- Welding items that are all the same gives no other one. -/
theorem mem_weld_const {f : α → α → α} {b x : α} (hf : f b b = b) {xs ys : List α}
    (hx : ∀ x ∈ xs, x = b) (hy : ∀ y ∈ ys, y = b) (h : x ∈ weld f xs ys) : x = b := by
  induction xs with
  | nil => exact hy x h
  | cons x' xs ih =>
    cases xs with
    | nil =>
      cases ys with
      | nil => cases h
      | cons y ys =>
        rw [weld_singleton_cons, hx x' (List.mem_cons_self ..), hy y (List.mem_cons_self ..), hf,
          List.mem_cons] at h
        rcases h with h | h
        · exact h
        · exact hy x (List.mem_cons_of_mem _ h)
    | cons x'' xs =>
      rw [weld_cons (List.cons_ne_nil _ _), List.mem_cons] at h
      rcases h with h | h
      · rw [h, hx x' (List.mem_cons_self ..)]
      · exact ih (fun z hz => hx z (List.mem_cons_of_mem _ hz)) h

end Weld

/-! ## Cutting -/

/-- Cuts words at the word `word`, wherever it stands outside of brackets; `depth` is the number
of brackets that are open in front of them. -/
def cut (word : List Char) (depth : Int) : List (List Char) → List (List (List Char))
  | [] => [[]]
  | w :: rest =>
    if depth = 0 ∧ w = word then [] :: cut word 0 rest
    else (cut word (depth + balance w) rest).modifyHead (w :: ·)

theorem cut_cons_self (word : List Char) (rest : List (List Char)) :
    cut word 0 (word :: rest) = [] :: cut word 0 rest := by
  rw [cut, if_pos ⟨rfl, rfl⟩]

theorem cut_cons {word w : List Char} {depth : Int} (h : ¬ (depth = 0 ∧ w = word))
    (rest : List (List Char)) :
    cut word depth (w :: rest) = (cut word (depth + balance w) rest).modifyHead (w :: ·) := by
  rw [cut, if_neg h]

theorem cut_ne_nil (word : List Char) (depth : Int) (ws : List (List Char)) :
    cut word depth ws ≠ [] := by
  induction ws generalizing depth with
  | nil => exact List.cons_ne_nil _ _
  | cons w ws ih =>
    unfold cut
    split
    · exact List.cons_ne_nil _ _
    · have := ih (depth + balance w)
      simpa using this

/-- Every part is a contiguous part of the words. -/
theorem isInfix_of_mem_cut {word : List Char} {depth : Int} {ws part : List (List Char)}
    (h : part ∈ cut word depth ws) : part <:+: ws := by
  -- the first part is even a beginning, which is what a word in front of it needs
  have general : ∀ (ws : List (List Char)) (depth : Int), ∃ first rest,
      cut word depth ws = first :: rest ∧ first <+: ws ∧ ∀ part ∈ rest, part <:+: ws := by
    intro ws
    induction ws with
    | nil => exact fun _ => ⟨[], [], rfl, List.prefix_rfl, fun part hp => by cases hp⟩
    | cons w ws ih =>
      intro depth
      unfold cut
      split
      · obtain ⟨first, rest, hc, hf, hr⟩ := ih 0
        refine ⟨[], _, rfl, List.nil_prefix, ?_⟩
        intro part hp
        rw [hc, List.mem_cons] at hp
        rcases hp with rfl | hp
        · exact hf.isInfix.trans (List.suffix_cons w ws).isInfix
        · exact (hr part hp).trans (List.suffix_cons w ws).isInfix
      · obtain ⟨first, rest, hc, hf, hr⟩ := ih (depth + balance w)
        refine ⟨w :: first, rest, by rw [hc]; rfl, (List.prefix_cons_inj w).2 hf, ?_⟩
        exact fun part hp => (hr part hp).trans (List.suffix_cons w ws).isInfix
  obtain ⟨first, rest, hc, hf, hr⟩ := general ws depth
  rw [hc, List.mem_cons] at h
  rcases h with rfl | h
  · exact hf.isInfix
  · exact hr part h

/-- Cutting at a word outside of brackets: what is in front of it and what is behind it are cut
separately. -/
theorem cut_append_cut {word : List Char} (hw : balance word = 0) {depth : Int}
    {ws : List (List Char)} (hd : depth + balance ws.flatten = 0) (us : List (List Char)) :
    cut word depth (ws ++ word :: us) = cut word depth ws ++ cut word 0 us := by
  induction ws generalizing depth with
  | nil =>
    rw [List.flatten_nil, balance_nil, Int.add_zero] at hd
    rw [List.nil_append, hd, cut_cons_self]
    rfl
  | cons w ws ih =>
    rw [List.flatten_cons, balance_append, ← Int.add_assoc] at hd
    by_cases hc : depth = 0 ∧ w = word
    · obtain ⟨rfl, rfl⟩ := hc
      rw [hw, Int.add_zero] at hd
      rw [List.cons_append, cut_cons_self, cut_cons_self, ih hd, List.cons_append]
    · obtain ⟨first, rest, hf⟩ :=
        List.exists_cons_of_ne_nil (cut_ne_nil word (depth + balance w) ws)
      rw [List.cons_append, cut_cons hc, cut_cons hc, ih hd, hf]
      rfl

/-- A word that is not cut at holds the parts on both sides of it together. -/
theorem cut_append_word {word w : List Char} (hw : balance word = 0) {depth : Int}
    {ws : List (List Char)} (h : ¬ (depth + balance ws.flatten = 0 ∧ w = word))
    (us : List (List Char)) :
    cut word depth (ws ++ w :: us) =
      weld (fun first second => first ++ w :: second) (cut word depth ws)
        (cut word (depth + balance ws.flatten + balance w) us) := by
  induction ws generalizing depth with
  | nil =>
    rw [List.flatten_nil, balance_nil, Int.add_zero] at h ⊢
    rw [List.nil_append, cut_cons h]
    rfl
  | cons w' ws ih =>
    rw [List.flatten_cons, balance_append, ← Int.add_assoc] at h ⊢
    by_cases hc : depth = 0 ∧ w' = word
    · obtain ⟨rfl, rfl⟩ := hc
      rw [hw, Int.add_zero] at h ⊢
      rw [List.cons_append, cut_cons_self, cut_cons_self, ih h, weld_cons (cut_ne_nil _ _ _)]
    · rw [List.cons_append, cut_cons hc, cut_cons hc, ih h]
      refine modifyHead_weld ?_ (cut_ne_nil _ _ _) _
      exact fun first second => rfl

/-- Words in which the word is missing outside of brackets are one part. -/
theorem cut_eq_singleton {word : List Char} {depth : Int} {ws : List (List Char)}
    (h : ∀ before behind, ws = before ++ word :: behind → depth + balance before.flatten ≠ 0) :
    cut word depth ws = [ws] := by
  induction ws generalizing depth with
  | nil => rfl
  | cons w ws ih =>
    have hw : ¬ (depth = 0 ∧ w = word) := by
      rintro ⟨rfl, rfl⟩
      exact h [] ws rfl rfl
    have rest : cut word (depth + balance w) ws = [ws] := by
      refine ih ?_
      intro before behind hs
      have := h (w :: before) behind (by rw [hs]; rfl)
      rwa [List.flatten_cons, balance_append, ← Int.add_assoc] at this
    rw [cut, if_neg hw, rest]
    rfl

theorem cut_of_not_mem {word : List Char} {ws : List (List Char)} (h : word ∉ ws) (depth : Int) :
    cut word depth ws = [ws] := by
  refine cut_eq_singleton ?_
  rintro before behind rfl
  exact absurd (by simp) h

/-- A cut is made only where all brackets are closed. -/
theorem balance_of_mem_cut {word : List Char} (hw : balance word = 0) {ws part : List (List Char)}
    (h : balance ws.flatten = 0) (hp : part ∈ cut word 0 ws) : balance part.flatten = 0 := by
  -- the first part may begin behind open brackets, all others begin behind none
  have general : ∀ (ws : List (List Char)) (depth : Int), depth + balance ws.flatten = 0 →
      ∃ first rest, cut word depth ws = first :: rest ∧ depth + balance first.flatten = 0 ∧
        ∀ part ∈ rest, balance part.flatten = 0 := by
    intro ws
    induction ws with
    | nil => exact fun depth hd => ⟨[], [], rfl, hd, fun part hp => by cases hp⟩
    | cons w ws ih =>
      intro depth hd
      rw [List.flatten_cons, balance_append, ← Int.add_assoc] at hd
      unfold cut
      split
      · rename_i hc
        obtain ⟨rfl, rfl⟩ := hc
        rw [hw] at hd
        obtain ⟨first, rest, hc, hf, hr⟩ := ih 0 hd
        refine ⟨[], _, rfl, rfl, ?_⟩
        intro part hp
        rw [hc, List.mem_cons] at hp
        rcases hp with rfl | hp
        · rwa [Int.zero_add] at hf
        · exact hr part hp
      · obtain ⟨first, rest, hc, hf, hr⟩ := ih (depth + balance w) hd
        refine ⟨w :: first, rest, by rw [hc]; rfl, ?_, hr⟩
        rwa [List.flatten_cons, balance_append, ← Int.add_assoc]
  obtain ⟨first, rest, hc, hf, hr⟩ := general ws 0 (by omega)
  rw [hc, List.mem_cons] at hp
  rcases hp with rfl | hp
  · rwa [Int.zero_add] at hf
  · exact hr part hp

/-- A balanced text in brackets is one part. -/
theorem cut_bracketed {c : Char} {word text : List Char} (hc : c ≠ '(') (h : Balanced text) :
    cut (c :: word) 0 (tokens ('(' :: text ++ [')'])) = [tokens ('(' :: text ++ [')'])] := by
  refine cut_eq_singleton ?_
  intro before behind hb
  have whole : '(' :: text ++ [')'] = phrase (before ++ (c :: word) :: behind) := by
    rw [← hb, phrase_tokens]
  by_cases he : before = []
  · -- the first word begins with the bracket
    have hw := isPrefix_phrase (c :: word) behind
    rw [he, List.nil_append] at whole
    rw [← whole] at hw
    exact absurd (List.cons_prefix_cons.1 hw).1 hc
  · rw [phrase_append he (List.cons_ne_nil _ _)] at whole
    have nonempty : phrase before ≠ [] := by
      intro hn
      rw [hn, List.nil_append] at whole
      cases whole
    have start : phrase before <+: '(' :: text := by
      rcases List.prefix_concat_iff.1 ⟨_, whole.symm⟩ with hp | hp
      · rw [hp] at whole
        exact absurd (List.append_right_eq_self.1 whole.symm) (List.cons_ne_nil _ _)
      · exact hp
    have := h.pos_of_prefix nonempty start
    rw [balance_phrase] at this
    omega

end SqlAssembly.Reading
