/-!
# Occurrences in a text

* `mentions word text` — `contains`: whether `word` stands anywhere in `text`, as a word of its own
  or inside another one.
* `mentions_iff` — that is, its characters are a contiguous part of those of the text.
-/

set_option autoImplicit false

namespace SqlAssembly

/-- Whether the characters of `word` stand side by side somewhere in `chars`. -/
def occursIn (word : List Char) : List Char → Bool
  | [] => word.isEmpty
  | c :: rest => word.isPrefixOf (c :: rest) || occursIn word rest

/-- Whether `text` contains `word`, be it inside a longer word. -/
def mentions (word text : String) : Bool := occursIn word.toList text.toList

theorem occursIn_iff (word chars : List Char) : occursIn word chars = true ↔ word <:+: chars := by
  induction chars with
  | nil => simp [occursIn]
  | cons c rest ih =>
    rw [occursIn, Bool.or_eq_true, ih, List.isPrefixOf_iff_prefix, List.infix_cons_iff]

theorem mentions_iff (word text : String) :
    mentions word text = true ↔ word.toList <:+: text.toList := occursIn_iff _ _

end SqlAssembly
