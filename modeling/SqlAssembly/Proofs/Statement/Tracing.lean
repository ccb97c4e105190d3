import Mathlib.Data.List.Induction
import SqlAssembly.Proofs.Text.Clipping
import SqlAssembly.Statement.Trace

/-!
# What a hook shows

A hook shows a written statement under the limit that was set last, and never touches what is
written.

* `Hook.limitAfter` — the limit that a sequence of changes leaves, read off the changes.
* `Shows` — what is to be shown of a text under a limit, if there is one.
* `Hook.shows_shown` — that is what a hook shows.
* `Statement.traced_shows_clipping` — the statement and the events that writing it leaves.
-/

set_option autoImplicit false

namespace SqlAssembly

namespace Hook

/-! ## The limit set last -/

/-- The limit that a change sets, be it that there is none; nothing for other changes. -/
def Setting.limit? : Setting → Option (Option Nat)
  | .level _ => none
  | .limit bytes => some (some bytes)
  | .unlimited => some none

/-- The limit of the last change that sets one; before that, 200 bytes. -/
def limitAfter (settings : List Setting) : Option Nat :=
  (settings.filterMap Setting.limit?).getLast?.getD (some 200)

theorem limit_set (h : Hook) (setting : Setting) :
    (h.set setting).limit = setting.limit?.getD h.limit := by
  cases setting <;> rfl

theorem limitAfter_concat (settings : List Setting) (setting : Setting) :
    limitAfter (settings ++ [setting]) = setting.limit?.getD (limitAfter settings) := by
  unfold limitAfter
  cases h : setting.limit? <;> simp [h]

theorem limit_adjust (settings : List Setting) : (adjust settings).limit = limitAfter settings := by
  induction settings using List.reverseRecOn with
  | nil => rfl
  | append_singleton settings setting ih =>
    rw [limitAfter_concat, ← ih, ← limit_set, adjust, List.foldl_append]
    rfl

end Hook

/-! ## What is shown -/

/-- Of a text that exceeds the limit, the longest beginning that fits and three points are shown,
and all of any other text. -/
def Shows (limit : Option Nat) (text shown : String) : Prop :=
  match limit with
  | none => shown = text
  | some limit =>
    if text.utf8ByteSize ≤ limit then shown = text
    else ∃ start, IsClipping limit text start ∧ shown = start ++ "..."

theorem Hook.shows_shown (h : Hook) (sql : String) : Shows h.limit sql (h.shown sql) := by
  unfold Shows
  split
  · rename_i unlimited
    exact shown_of_unlimited unlimited sql
  · rename_i limit set
    split
    · rename_i fits
      exact shown_of_fits set fits
    · rename_i exceeds
      refine ⟨clip limit sql, isClipping_clip limit sql, ?_⟩
      rw [shown, set]
      exact if_pos (Nat.not_le.1 exceeds)

/-- **Tracing shows the longest beginning that fits.**  Whatever the text and the limit, a clipped
text ends at a place between two characters and is the longest such beginning that fits the limit:
all of the text exactly when that fits, and otherwise at most three bytes shorter than the limit.
A hook with any changes made to it shows a written statement under the limit set last, and no hook
touches what is written. -/
theorem Statement.traced_shows_clipping (settings : List Hook.Setting) (s : Statement) :
    (∀ limit text,
      (∃ place : text.Pos, clip limit text = (text.sliceTo place).copy) ∧
        IsClipping limit text (clip limit text) ∧
        (clip limit text = text ↔ text.utf8ByteSize ≤ limit) ∧
        (limit < text.utf8ByteSize → limit ≤ (clip limit text).utf8ByteSize + 3)) ∧
      (∀ hook, (s.traced hook).1 = s.sql) ∧
      ∀ sql, s.sql = .ok sql →
        ∃ shown, Shows (Hook.limitAfter settings) sql shown ∧
          (s.traced (Hook.adjust settings)).2 =
            [.written s.kind sql, .shown (Hook.adjust settings).level s.kind shown] := by
  refine ⟨fun limit text => ?_, s.traced_fst, fun sql written => ?_⟩
  · have clipping := isClipping_clip limit text
    refine ⟨?_, clipping, clipping.eq_iff, clipping.le_add_three⟩
    exact ⟨_, (sliceTo_of_isPrefix clipping.isPrefix).symm⟩
  · refine ⟨(Hook.adjust settings).shown sql, ?_, ?_⟩
    · rw [← Hook.limit_adjust]
      exact Hook.shows_shown _ sql
    · rw [traced, written]

/-- The limit set last ends inside the second character of the columns. -/
theorem Statement.traced_shows_clipping_insideCharacter :
    ∃ shown, Shows (some 9) "SELECT né FROM t;" shown ∧
      (Statement.traced (.select (Select.assemble [.source (.named "t"), .addColumns (.one "né")]))
          (Hook.adjust [.unlimited, .limit 9, .level .info])).2 =
        [.written .select "SELECT né FROM t;", .shown .info .select shown] := by
  obtain ⟨-, -, shows⟩ := traced_shows_clipping [.unlimited, .limit 9, .level .info]
    (.select (Select.assemble [.source (.named "t"), .addColumns (.one "né")]))
  exact shows "SELECT né FROM t;" rfl

end SqlAssembly
