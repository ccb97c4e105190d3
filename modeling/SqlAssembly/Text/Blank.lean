/-!
# Blanks

* `isBlank` — `is_whitespace`: the characters with the Unicode property White_Space.
* `trim` — `trim`: a text without the blanks at its ends.
* `trimChars_pad` — blanks put around a text make no difference to what is left of it.
-/

set_option autoImplicit false

namespace SqlAssembly

/-- The 25 characters with the Unicode property White_Space. -/
def isBlank (c : Char) : Bool :=
  let code := c.toNat
  (9 ≤ code && code ≤ 13) || code == 0x20 || code == 0x85 || code == 0xA0 || code == 0x1680 ||
    (0x2000 ≤ code && code ≤ 0x200A) || code == 0x2028 || code == 0x2029 || code == 0x202F ||
    code == 0x205F || code == 0x3000

/-- Characters without the blanks behind the last other one. -/
def trimEnd (chars : List Char) : List Char := (chars.reverse.dropWhile isBlank).reverse

/-- Characters without the blanks at their ends. -/
def trimChars (chars : List Char) : List Char := trimEnd (chars.dropWhile isBlank)

/-- A text without the blanks at its ends. -/
def trim (text : String) : String := String.ofList (trimChars text.toList)

theorem dropWhile_pad {pad : List Char} (h : ∀ c ∈ pad, isBlank c = true) (chars : List Char) :
    (pad ++ chars).dropWhile isBlank = chars.dropWhile isBlank := by
  induction pad with
  | nil => rfl
  | cons c rest ih =>
    rw [List.cons_append, List.dropWhile_cons_of_pos (h c (List.mem_cons_self ..))]
    exact ih fun d found => h d (List.mem_cons_of_mem c found)

theorem trimEnd_pad {pad : List Char} (h : ∀ c ∈ pad, isBlank c = true) (chars : List Char) :
    trimEnd (chars ++ pad) = trimEnd chars := by
  unfold trimEnd
  rw [List.reverse_append, dropWhile_pad]
  intro c found
  exact h c (List.mem_reverse.1 found)

/-- Leading blanks can be dropped before or after something is put behind the text. -/
theorem trimEnd_dropWhile_append_pad {pad : List Char} (h : ∀ c ∈ pad, isBlank c = true)
    (chars : List Char) :
    trimEnd ((chars ++ pad).dropWhile isBlank) = trimEnd (chars.dropWhile isBlank) := by
  induction chars with
  | nil =>
    have gone : pad.dropWhile isBlank = [] := by
      have := dropWhile_pad h []
      rwa [List.append_nil] at this
    rw [List.nil_append, gone]
    rfl
  | cons c rest ih =>
    by_cases blank : isBlank c = true
    · rw [List.cons_append, List.dropWhile_cons_of_pos blank, List.dropWhile_cons_of_pos blank]
      exact ih
    · rw [List.cons_append, List.dropWhile_cons_of_neg blank, List.dropWhile_cons_of_neg blank,
        ← List.cons_append]
      exact trimEnd_pad h (c :: rest)

/-- Blanks put around a text make no difference to what is left of it. -/
theorem trimChars_pad {before behind : List Char} (hb : ∀ c ∈ before, isBlank c = true)
    (ha : ∀ c ∈ behind, isBlank c = true) (chars : List Char) :
    trimChars (before ++ chars ++ behind) = trimChars chars := by
  unfold trimChars
  rw [List.append_assoc, dropWhile_pad hb, trimEnd_dropWhile_append_pad ha]

/-- A text whose ends are no blanks is left as it is. -/
theorem trimChars_of_not_blank {chars : List Char} (h : ∀ c ∈ chars, isBlank c = false) :
    trimChars chars = chars := by
  have keep : ∀ cs : List Char, (∀ c ∈ cs, isBlank c = false) → cs.dropWhile isBlank = cs := by
    intro cs all
    cases cs with
    | nil => rfl
    | cons c rest =>
      rw [List.dropWhile_cons_of_neg]
      rw [all c (List.mem_cons_self ..)]
      exact Bool.false_ne_true
  unfold trimChars trimEnd
  rw [keep chars h, keep chars.reverse, List.reverse_reverse]
  intro c found
  exact h c (List.mem_reverse.1 found)

end SqlAssembly
