/-!
# Clipping a text to a number of bytes

A limit counts bytes of UTF-8, but a character is never cut: from the limit the search goes back
byte by byte until it meets a place between two characters.

* `boundaryBefore` — the loop of `truncate_sql_bytes`: the place that the search ends at.
* `clip` — `truncate_sql_bytes`: a text up to that place, or all of it if it fits.
* `boundaryBefore_le`, `le_boundaryBefore` — the search does not go beyond the limit, and it misses
  no place between two characters.
-/

set_option autoImplicit false

namespace SqlAssembly

/-- Going back byte by byte, the first place between two characters.  The beginning of a text is
one, so nothing is searched in front of it. -/
def boundaryBefore (text : String) : Nat → text.Pos
  | 0 => text.startPos
  | bytes + 1 =>
    if boundary : (⟨bytes + 1⟩ : String.Pos.Raw).IsValid text then text.pos ⟨bytes + 1⟩ boundary
    else boundaryBefore text bytes

/-- The longest beginning of a text that takes up at most `limit` bytes. -/
def clip (limit : Nat) (text : String) : String :=
  if text.utf8ByteSize ≤ limit then text else (text.sliceTo (boundaryBefore text limit)).copy

theorem boundaryBefore_le (text : String) (bytes : Nat) :
    (boundaryBefore text bytes).offset.byteIdx ≤ bytes := by
  induction bytes with
  | zero => simp [boundaryBefore]
  | succ bytes ih =>
    unfold boundaryBefore
    split
    · simp
    · exact Nat.le_succ_of_le ih

theorem le_boundaryBefore {text : String} (place : text.Pos) {bytes : Nat}
    (h : place.offset.byteIdx ≤ bytes) :
    place.offset.byteIdx ≤ (boundaryBefore text bytes).offset.byteIdx := by
  induction bytes with
  | zero => exact Nat.le_trans h (Nat.zero_le _)
  | succ bytes ih =>
    unfold boundaryBefore
    split
    · exact h
    · rename_i inside
      have other : place.offset.byteIdx ≠ bytes + 1 := by
        intro here
        rw [← here] at inside
        exact inside place.isValid
      exact ih (by omega)

end SqlAssembly
