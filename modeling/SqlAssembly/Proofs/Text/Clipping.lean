import SqlAssembly.Text.Clip

/-!
# The longest beginning that fits

What a clipped text is can be said without the search for its end: it is the longest beginning of
the text, made of whole characters, that fits the limit.

* `IsClipping` — the longest beginning of a text that fits a limit.
* `IsClipping.eq_iff`, `IsClipping.le_add_three` — it is the whole text exactly when that fits, and
  otherwise it leaves at most three bytes unused.
* `isClipping_clip` — what the search finds is the longest beginning.
-/

set_option autoImplicit false

namespace SqlAssembly

variable {limit : Nat} {text start : String}

/-- The characters of `start` are the first ones of `text`, they take up at most `limit` bytes, and
no further character does. -/
structure IsClipping (limit : Nat) (text start : String) : Prop where
  isPrefix : start.toList <+: text.toList
  fits : start.utf8ByteSize ≤ limit
  longest : ∀ other : String, other.toList <+: text.toList → other.utf8ByteSize ≤ limit →
    other.toList <+: start.toList

theorem isPrefix_toList_iff {first whole : String} :
    first.toList <+: whole.toList ↔ ∃ rest, whole = first ++ rest := by
  constructor
  · rintro ⟨rest, joined⟩
    refine ⟨String.ofList rest, ?_⟩
    rw [← String.toList_inj, String.toList_append, String.toList_ofList, joined]
  · rintro ⟨rest, rfl⟩
    rw [String.toList_append]
    exact List.prefix_append _ _

/-! ## How long it is -/

namespace IsClipping

theorem eq_iff (h : IsClipping limit text start) :
    start = text ↔ text.utf8ByteSize ≤ limit := by
  constructor
  · rintro rfl
    exact h.fits
  · intro whole
    have back := h.longest text List.prefix_rfl whole
    exact String.toList_inj.1 (h.isPrefix.eq_of_length_le back.length_le)

/-- The next character would have fitted if four bytes were left. -/
theorem le_add_three (h : IsClipping limit text start) (exceeds : limit < text.utf8ByteSize) :
    limit ≤ start.utf8ByteSize + 3 := by
  obtain ⟨rest, joined⟩ := h.isPrefix
  cases rest with
  | nil =>
    rw [List.append_nil, String.toList_inj] at joined
    exact absurd (h.eq_iff.1 joined) (Nat.not_le.2 exceeds)
  | cons next rest =>
    have small := next.utf8Size_le_four
    refine Nat.not_lt.1 fun room => ?_
    have further : (start.push next).toList <+: text.toList := by
      rw [String.toList_push, ← joined]
      exact ⟨rest, by simp⟩
    have back := h.longest (start.push next) further (by rw [String.utf8ByteSize_push]; omega)
    have := back.length_le
    rw [String.toList_push, List.length_append] at this
    exact absurd this (by simp)

end IsClipping

/-! ## What the search finds -/

/-- Every beginning of a text ends at a place between two characters. -/
theorem isValid_of_isPrefix (h : start.toList <+: text.toList) :
    (⟨start.utf8ByteSize⟩ : String.Pos.Raw).IsValid text := by
  obtain ⟨rest, joined⟩ := isPrefix_toList_iff.1 h
  exact String.Pos.Raw.isValid_iff_exists_append.2 ⟨start, rest, joined, rfl⟩

/-- Every beginning of a text is what stands in front of such a place. -/
theorem sliceTo_of_isPrefix (h : start.toList <+: text.toList) :
    (text.sliceTo (text.pos _ (isValid_of_isPrefix h))).copy = start := by
  obtain ⟨rest, joined⟩ := isPrefix_toList_iff.1 h
  exact String.copy_sliceTo_eq_iff_exists_splits.2 ⟨rest, joined, rfl⟩

/-- The text up to a place is a beginning of it, with as many bytes as the place is away. -/
theorem isPrefix_sliceTo (place : text.Pos) :
    (text.sliceTo place).copy.toList <+: text.toList ∧
      (text.sliceTo place).copy.utf8ByteSize = place.offset.byteIdx :=
  ⟨isPrefix_toList_iff.2 ⟨_, String.sliceTo_append_sliceFrom.symm⟩, by
    simp [String.Slice.utf8ByteSize_eq]⟩

/-- Of two beginnings of a text, the one with fewer bytes is a beginning of the other. -/
theorem isPrefix_of_utf8ByteSize_le {first second : String} (hf : first.toList <+: text.toList)
    (hs : second.toList <+: text.toList) (le : first.utf8ByteSize ≤ second.utf8ByteSize) :
    first.toList <+: second.toList := by
  rcases List.prefix_or_prefix_of_prefix hf hs with shorter | longer
  · exact shorter
  · obtain ⟨rest, joined⟩ := isPrefix_toList_iff.1 longer
    rw [joined, String.utf8ByteSize_append] at le
    have empty : rest = "" := String.utf8ByteSize_eq_zero_iff.1 (by omega)
    have same : first = second := by rw [joined, empty, String.append_empty]
    exact same ▸ List.prefix_rfl

theorem isClipping_clip (limit : Nat) (text : String) :
    IsClipping limit text (clip limit text) := by
  unfold clip
  split
  · rename_i whole
    exact ⟨List.prefix_rfl, whole, fun _ isPrefix _ => isPrefix⟩
  · obtain ⟨isPrefix, size⟩ := isPrefix_sliceTo (boundaryBefore text limit)
    refine ⟨isPrefix, size ▸ boundaryBefore_le text limit, ?_⟩
    intro other beginning fits
    have before := le_boundaryBefore (text.pos _ (isValid_of_isPrefix beginning)) fits
    rw [← size] at before
    exact isPrefix_of_utf8ByteSize_le beginning isPrefix before

/-- The limit ends inside the last character. -/
example : clip 2 "né" = "n" := by decide

end SqlAssembly
