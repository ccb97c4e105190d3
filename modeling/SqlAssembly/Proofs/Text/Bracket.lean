import Mathlib.Data.List.Infix

/-!
# Round brackets in a text

* `balance` — how many more brackets are opened than closed.
* `Balanced` — brackets pair up: each one that is opened is closed behind it.
* `inside` — what the first and the last bracket of a text enclose, if they are a pair.
-/

set_option autoImplicit false

namespace SqlAssembly

/-- How many more brackets are opened than closed. -/
def balance (chars : List Char) : Int := (chars.count '(' : Int) - chars.count ')'

/-- Brackets pair up: none is closed before it is opened, and none stays open. -/
def Balanced (chars : List Char) : Prop :=
  balance chars = 0 ∧ ∀ start ∈ chars.inits, 0 ≤ balance start

instance (chars : List Char) : Decidable (Balanced chars) := inferInstanceAs (Decidable (_ ∧ _))

/-- What the first and the last bracket of a text enclose, if they are a pair. -/
def inside : List Char → Option (List Char)
  | '(' :: rest =>
    if rest.getLast? = some ')' ∧ Balanced rest.dropLast then some rest.dropLast else none
  | _ => none

theorem balance_nil : balance [] = 0 := rfl

theorem balance_append (first second : List Char) :
    balance (first ++ second) = balance first + balance second := by
  simp only [balance, List.count_append]
  omega

theorem balance_cons (c : Char) (chars : List Char) :
    balance (c :: chars) = balance [c] + balance chars := balance_append [c] chars

/-- No beginning of a balanced text closes more than it opens. -/
theorem Balanced.nonneg {chars start : List Char} (h : Balanced chars) (hs : start <+: chars) :
    0 ≤ balance start := h.2 start ((List.mem_inits _ _).2 hs)

theorem Balanced.intro {chars : List Char} (whole : balance chars = 0)
    (starts : ∀ start, start <+: chars → 0 ≤ balance start) : Balanced chars :=
  ⟨whole, fun start h => starts start ((List.mem_inits _ _).1 h)⟩

theorem Balanced.append {first second : List Char} (hf : Balanced first) (hs : Balanced second) :
    Balanced (first ++ second) := by
  refine Balanced.intro ?_ ?_
  · rw [balance_append, hf.1, hs.1]
    rfl
  · intro start h
    obtain ⟨behind, h⟩ := h
    rcases List.append_eq_append_iff.1 h with ⟨more, he, _⟩ | ⟨more, he, hm⟩
    · exact hf.nonneg ⟨more, he.symm⟩
    · have := hs.nonneg ⟨behind, hm.symm⟩
      rw [he, balance_append, hf.1]
      omega

/-- Every proper beginning of a text in brackets leaves the first bracket open. -/
theorem Balanced.pos_of_prefix {chars start : List Char} (h : Balanced chars)
    (nonempty : start ≠ []) (hs : start <+: '(' :: chars) : 0 < balance start := by
  cases start with
  | nil => exact absurd rfl nonempty
  | cons c start =>
    obtain ⟨rfl, rest⟩ := List.cons_prefix_cons.1 hs
    have := h.nonneg rest
    have hc : balance ['('] = 1 := rfl
    rw [balance_cons, hc]
    omega

theorem Balanced.bracketed {chars : List Char} (h : Balanced chars) :
    Balanced ('(' :: chars ++ [')']) := by
  have whole : balance ('(' :: chars ++ [')']) = 0 := by
    rw [balance_append, balance_cons, h.1]
    rfl
  refine Balanced.intro whole ?_
  intro start hs
  rcases List.prefix_concat_iff.1 hs with rfl | hs
  · exact Int.le_of_eq whole.symm
  · by_cases he : start = []
    · rw [he]
      exact Int.le_refl 0
    · have := h.pos_of_prefix he hs
      omega

theorem inside_bracketed {chars : List Char} (h : Balanced chars) :
    inside ('(' :: chars ++ [')']) = some chars := by
  have hd : (chars ++ [')']).dropLast = chars := List.dropLast_concat
  have hl : (chars ++ [')']).getLast? = some ')' := List.getLast?_concat
  rw [List.cons_append, inside, hd, if_pos ⟨hl, h⟩]

theorem inside_of_head {chars : List Char} (h : chars.head? ≠ some '(') : inside chars = none := by
  unfold inside
  split
  · exact absurd rfl h
  · rfl

theorem length_of_inside {chars inner : List Char} (h : inside chars = some inner) :
    inner.length < chars.length := by
  unfold inside at h
  split at h
  · split at h
    · cases h
      rw [List.length_dropLast, List.length_cons]
      omega
    · cases h
  · cases h

end SqlAssembly
