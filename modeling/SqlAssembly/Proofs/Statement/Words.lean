import SqlAssembly.Proofs.Text.Cut
import SqlAssembly.Proofs.Text.Quote
import SqlAssembly.Statement.Clause

/-!
# Statements as words

A statement is a row of words with spaces between them.  The words can be read off again as long
as a space inside of one stands between quotes.

* `wordsOf`, `lexemes` — the words of a text: what stands between its spaces, where for `lexemes`
  the spaces between quotes do not count.
* `wordsOf_sentence`, `lexemes_sentence` — the words of a row of words.
* `series`, `enumeration` — rows of words, or single words, with commas between them.
* `bare` — a word without the comma behind it.
* `cutAt`, `pieces` — words in front of a word and behind it, and words up to each that ends a
  piece.
-/

set_option autoImplicit false

namespace SqlAssembly

open Reading

/-! ## Rows of words -/

theorem sentence_singleton (word : String) : sentence [word] = word :=
  String.intercalate_singleton

theorem sentence_append {ws us : List String} (hw : ws ≠ []) (hu : us ≠ []) :
    sentence (ws ++ us) = sentence ws ++ " " ++ sentence us :=
  String.intercalate_append_of_ne_nil hw hu

theorem sentence_cons_of_ne_nil {ws : List String} (h : ws ≠ []) (w : String) :
    sentence (w :: ws) = w ++ " " ++ sentence ws := by
  rw [← List.singleton_append, sentence_append (List.cons_ne_nil w []) h, sentence_singleton]

/-- A row of rows is a row. -/
theorem sentence_map_sentence {rows : List (List String)} (h : ∀ ws ∈ rows, ws ≠ []) :
    sentence (rows.map sentence) = sentence rows.flatten := by
  induction rows with
  | nil => rfl
  | cons ws rows ih =>
    have hw := h ws (List.mem_cons_self ..)
    have hr := fun us hu => h us (List.mem_cons_of_mem ws hu)
    cases rows with
    | nil => simp [sentence_singleton]
    | cons us rows =>
      have nonempty : (us :: rows).flatten ≠ [] := by
        have := hr us (List.mem_cons_self ..)
        simp [this]
      rw [List.flatten_cons, sentence_append hw nonempty, ← ih hr, List.map_cons,
        sentence_cons_of_ne_nil (by simp)]

/-! ## Words of a text -/

theorem not_mem_of_mem_tokens {w text : List Char} (h : w ∈ tokens text) : ' ' ∉ w := by
  unfold tokens at h
  induction text generalizing w with
  | nil =>
    rw [List.splitOn_nil, List.mem_singleton] at h
    rw [h]
    exact List.not_mem_nil
  | cons c text ih =>
    rw [List.splitOn_cons_eq_if_modifyHead] at h
    split at h
    · rcases List.mem_cons.1 h with rfl | later
      · exact List.not_mem_nil
      · exact ih later
    · rename_i differs
      cases rest : text.splitOn ' ' with
      | nil =>
        rw [rest] at h
        cases h
      | cons first others =>
        rw [rest, List.modifyHead_cons, List.mem_cons] at h
        rw [rest] at ih
        rcases h with rfl | later
        · rw [List.mem_cons, not_or]
          exact ⟨fun same => differs (beq_iff_eq.2 same.symm), ih (List.mem_cons_self ..)⟩
        · exact ih (List.mem_cons_of_mem first later)

/-- The words of a text: what stands between its spaces. -/
def wordsOf (text : String) : List String := (tokens text.toList).map String.ofList

/-- The words of a text, where a space between quotes is part of a word. -/
def lexemes (text : String) : List String :=
  ((marked false text.toList).splitOn (' ', false)).map fun w => String.ofList (w.map Prod.fst)

theorem toList_sentence (ws : List String) :
    (sentence ws).toList = [' '].intercalate (ws.map String.toList) := by
  have space : " ".toList = [' '] := by decide
  rw [sentence, String.toList_intercalate, space]

theorem wordsOf_append (first second : String) :
    wordsOf (first ++ " " ++ second) = wordsOf first ++ wordsOf second := by
  have space : " ".toList = [' '] := by decide
  rw [wordsOf, String.toList_append, String.toList_append, space, List.append_assoc,
    List.singleton_append, tokens_append, List.map_append]
  rfl

theorem wordsOf_of_not_mem {word : String} (h : ' ' ∉ word.toList) : wordsOf word = [word] := by
  rw [wordsOf, tokens_of_not_mem h, List.map_singleton, String.ofList_toList]

theorem wordsOf_ne_nil (text : String) : wordsOf text ≠ [] := by
  unfold wordsOf tokens
  simp

/-- No word has a space in it. -/
theorem space_not_mem_of_mem_wordsOf {w text : String} (h : w ∈ wordsOf text) :
    ' ' ∉ w.toList := by
  obtain ⟨chars, hm, rfl⟩ := List.mem_map.1 h
  rw [String.toList_ofList]
  exact not_mem_of_mem_tokens hm

theorem sentence_wordsOf (text : String) : sentence (wordsOf text) = text := by
  rw [← String.toList_inj, toList_sentence, wordsOf, List.map_map]
  have back : String.toList ∘ String.ofList = id := funext fun _ => String.toList_ofList
  rw [back, List.map_id]
  exact phrase_tokens text.toList

/-- The words of a row of words are these. -/
theorem wordsOf_sentence {ws : List String} (nonempty : ws ≠ []) (h : ∀ w ∈ ws, ' ' ∉ w.toList) :
    wordsOf (sentence ws) = ws := by
  induction ws with
  | nil => exact absurd rfl nonempty
  | cons w ws ih =>
    have hw := wordsOf_of_not_mem (h w (List.mem_cons_self ..))
    by_cases hn : ws = []
    · rw [hn, sentence_singleton, hw]
    · rw [sentence_cons_of_ne_nil hn, wordsOf_append, hw,
        ih hn fun u hu => h u (List.mem_cons_of_mem w hu), List.singleton_append]

/-! ## Words with quotes -/

/-- A word that closes the quotes it opens and has its spaces between quotes. -/
structure IsLexeme (word : String) : Prop where
  closed : leavesOpen word.toList = false
  whole : (' ', false) ∉ marked false word.toList

instance (word : String) : Decidable (IsLexeme word) :=
  decidable_of_iff (leavesOpen word.toList = false ∧ (' ', false) ∉ marked false word.toList)
    ⟨fun h => ⟨h.1, h.2⟩, fun h => ⟨h.closed, h.whole⟩⟩

theorem IsLexeme.of_not_mem {word : String} (space : ' ' ∉ word.toList)
    (quote : '\'' ∉ word.toList) : IsLexeme word := by
  refine ⟨leavesOpen_of_not_mem quote, ?_⟩
  have outside := marked_of_not_mem quote false []
  rw [List.append_nil, marked, List.append_nil] at outside
  rw [outside, List.mem_map]
  rintro ⟨c, found, same⟩
  cases same
  exact space found

/-- A comma changes nothing about a word. -/
theorem IsLexeme.comma {word : String} (h : IsLexeme word) : IsLexeme (word ++ ",") := by
  have mark : ",".toList = [','] := by decide
  constructor
  · rw [String.toList_append, leavesOpen_append, h.closed, mark]
    rfl
  · have outside : marked false [','] = [(',', false)] := rfl
    rw [String.toList_append, marked_append, h.closed, Bool.xor_false, mark, outside,
      List.mem_append, not_or]
    exact ⟨h.whole, by decide⟩

theorem lexemes_append {first : String} (h : leavesOpen first.toList = false) (second : String) :
    lexemes (first ++ " " ++ second) = lexemes first ++ lexemes second := by
  have space : " ".toList = [' '] := by decide
  have apart : marked false (' ' :: second.toList) =
      (' ', false) :: marked false second.toList := marked_cons (by decide) false _
  rw [lexemes, String.toList_append, String.toList_append, space, List.append_assoc,
    List.singleton_append, marked_append, h, Bool.xor_false, apart,
    List.splitOn_append_cons_self, List.map_append]
  rfl

theorem IsLexeme.lexemes_eq {word : String} (h : IsLexeme word) : lexemes word = [word] := by
  rw [lexemes, List.splitOn_eq_singleton h.whole, List.map_singleton, map_fst_marked,
    String.ofList_toList]

theorem lexemes_ne_nil (text : String) : lexemes text ≠ [] := by
  unfold lexemes
  simp

theorem sentence_lexemes (text : String) : sentence (lexemes text) = text := by
  have plain : ∀ pieces : List (List (Char × Bool)),
      [' '].intercalate (pieces.map (·.map Prod.fst)) =
        ([(' ', false)].intercalate pieces).map Prod.fst := by
    intro pieces
    induction pieces with
    | nil => rfl
    | cons first rest ih =>
      cases rest with
      | nil => simp
      | cons second rest =>
        rw [List.map_cons, List.map_cons, List.intercalate_cons_cons, ← List.map_cons, ih,
          List.intercalate_cons_cons]
        simp
  have back : (String.toList ∘ fun w : List (Char × Bool) => String.ofList (w.map Prod.fst)) =
      (·.map Prod.fst) := funext fun _ => String.toList_ofList
  rw [← String.toList_inj, toList_sentence, lexemes, List.map_map, back, plain,
    List.intercalate_splitOn, map_fst_marked]

theorem leavesOpen_sentence {ws : List String} (h : ∀ w ∈ ws, IsLexeme w) :
    leavesOpen (sentence ws).toList = false := by
  induction ws with
  | nil => rfl
  | cons w ws ih =>
    have hw := (h w (List.mem_cons_self ..)).closed
    by_cases hn : ws = []
    · rw [hn, sentence_singleton, hw]
    · have space : leavesOpen " ".toList = false := by decide
      rw [sentence_cons_of_ne_nil hn, String.toList_append, String.toList_append,
        leavesOpen_append, leavesOpen_append, hw, space,
        ih fun u hu => h u (List.mem_cons_of_mem w hu)]
      rfl

/-- The words of a row of words are these. -/
theorem lexemes_sentence {ws : List String} (nonempty : ws ≠ []) (h : ∀ w ∈ ws, IsLexeme w) :
    lexemes (sentence ws) = ws := by
  induction ws with
  | nil => exact absurd rfl nonempty
  | cons w ws ih =>
    have hw := h w (List.mem_cons_self ..)
    by_cases hn : ws = []
    · rw [hn, sentence_singleton, hw.lexemes_eq]
    · rw [sentence_cons_of_ne_nil hn, lexemes_append hw.closed, hw.lexemes_eq,
        ih hn fun u hu => h u (List.mem_cons_of_mem w hu), List.singleton_append]

/-! ## Lists of words -/

/-- Words with a comma behind the last. -/
def withComma : List String → List String
  | [] => []
  | [w] => [w ++ ","]
  | w :: w' :: ws => w :: withComma (w' :: ws)

/-- Rows of words one behind the other, with a comma behind each but the last. -/
def series : List (List String) → List String
  | [] => []
  | [ws] => ws
  | ws :: ws' :: rows => withComma ws ++ series (ws' :: rows)

/-- A text without its last character. -/
def chop (text : String) : String := String.ofList text.toList.dropLast

/-- Whether a word has a comma behind it. -/
def endsInComma (word : String) : Bool := word.toList.getLast? == some ','

/-- A word without the comma behind it. -/
def bare (word : String) : String := if endsInComma word then chop word else word

theorem withComma_ne_nil {ws : List String} (h : ws ≠ []) : withComma ws ≠ [] := by
  match ws with
  | [] => exact absurd rfl h
  | [_] => exact List.cons_ne_nil _ _
  | _ :: _ :: _ => exact List.cons_ne_nil _ _

theorem sentence_withComma {ws : List String} (h : ws ≠ []) :
    sentence (withComma ws) = sentence ws ++ "," := by
  induction ws with
  | nil => exact absurd rfl h
  | cons w ws ih =>
    cases ws with
    | nil => rw [withComma, sentence_singleton, sentence_singleton]
    | cons w' ws =>
      have hw := List.cons_ne_nil w' ws
      rw [withComma, sentence_cons_of_ne_nil (withComma_ne_nil hw), ih hw,
        sentence_cons_of_ne_nil hw]
      simp only [String.append_assoc]

theorem series_ne_nil {rows : List (List String)} (nonempty : rows ≠ [])
    (h : ∀ ws ∈ rows, ws ≠ []) : series rows ≠ [] := by
  match rows with
  | [] => exact absurd rfl nonempty
  | [ws] => exact h ws (List.mem_singleton_self ws)
  | ws :: ws' :: rows =>
    have := withComma_ne_nil (h ws (List.mem_cons_self ..))
    simp [series, this]

/-- Texts with commas between them are a row of words again. -/
theorem intercalate_sentence {rows : List (List String)} (h : ∀ ws ∈ rows, ws ≠ []) :
    ", ".intercalate (rows.map sentence) = sentence (series rows) := by
  induction rows with
  | nil => rfl
  | cons ws rows ih =>
    have hw := h ws (List.mem_cons_self ..)
    have hr := fun us hu => h us (List.mem_cons_of_mem ws hu)
    cases rows with
    | nil => rw [List.map_singleton, String.intercalate_singleton, series]
    | cons us rows =>
      have comma : ", " = "," ++ " " := by decide
      have := ih hr
      rw [List.map_cons] at this
      rw [List.map_cons, List.map_cons, String.intercalate_cons_cons, this, series,
        sentence_append (withComma_ne_nil hw) (series_ne_nil (List.cons_ne_nil _ _) hr),
        sentence_withComma hw, comma]
      simp only [String.append_assoc]

theorem endsInComma_comma (word : String) : endsInComma (word ++ ",") = true := by
  have comma : ",".toList = [','] := by decide
  rw [endsInComma, String.toList_append, comma, List.getLast?_concat]
  rfl

theorem chop_append {mark : String} {c : Char} (h : mark.toList = [c]) (text : String) :
    chop (text ++ mark) = text := by
  rw [chop, String.toList_append, h, List.dropLast_concat, String.ofList_toList]

/-- A statement without its semicolon. -/
theorem chop_semicolon (body : String) : chop (body ++ ";") = body := by
  have mark : ";".toList = [';'] := by decide
  exact chop_append mark body

theorem bare_comma (word : String) : bare (word ++ ",") = word := by
  have comma : ",".toList = [','] := by decide
  rw [bare, if_pos (endsInComma_comma word), chop_append comma]

theorem bare_of_not_endsInComma {word : String} (h : endsInComma word = false) :
    bare word = word := by
  rw [bare, h]
  rfl

theorem map_bare {ws : List String} (h : ∀ w ∈ ws, endsInComma w = false) : ws.map bare = ws := by
  have : ∀ w ∈ ws, bare w = id w := fun w hw => bare_of_not_endsInComma (h w hw)
  rw [List.map_congr_left this, List.map_id]

theorem map_bare_withComma {ws : List String} (h : ∀ w ∈ ws.getLast?, endsInComma w = false) :
    (withComma ws).map bare = ws.map bare := by
  induction ws with
  | nil => rfl
  | cons w ws ih =>
    cases ws with
    | nil =>
      rw [withComma, List.map_singleton, List.map_singleton, bare_comma,
        bare_of_not_endsInComma (h w rfl)]
    | cons w' ws =>
      rw [withComma, List.map_cons, List.map_cons, ih fun u hu => h u (by simpa using hu)]

/-- Without any commas, rows behind each other are one row. -/
theorem map_bare_series {rows : List (List String)}
    (h : ∀ ws ∈ rows, ∀ w ∈ ws.getLast?, endsInComma w = false) :
    (series rows).map bare = rows.flatten.map bare := by
  induction rows with
  | nil => rfl
  | cons ws rows ih =>
    have hw := h ws (List.mem_cons_self ..)
    cases rows with
    | nil => rw [series, List.flatten_singleton]
    | cons us rows =>
      have front : (ws :: us :: rows).flatten = ws ++ (us :: rows).flatten := List.flatten_cons
      rw [series, List.map_append, map_bare_withComma hw,
        ih fun vs hv => h vs (List.mem_cons_of_mem ws hv), front, List.map_append]

section

variable {P : String → Prop} (comma : ∀ w, P w → P (w ++ ","))
include comma

theorem forall_mem_withComma {ws : List String} (h : ∀ w ∈ ws, P w) : ∀ w ∈ withComma ws, P w := by
  induction ws with
  | nil => exact h
  | cons w ws ih =>
    have hw := h w (List.mem_cons_self ..)
    cases ws with
    | nil =>
      rw [withComma, List.forall_mem_singleton]
      exact comma w hw
    | cons w' ws =>
      rw [withComma, List.forall_mem_cons]
      exact ⟨hw, ih fun u hu => h u (List.mem_cons_of_mem w hu)⟩

/-- What every word has, with or without a comma behind it, the words of a series have. -/
theorem forall_mem_series {rows : List (List String)} (h : ∀ w ∈ rows.flatten, P w) :
    ∀ w ∈ series rows, P w := by
  induction rows with
  | nil => exact h
  | cons ws rows ih =>
    rw [List.flatten_cons, List.forall_mem_append] at h
    cases rows with
    | nil => exact h.1
    | cons us rows =>
      rw [series, List.forall_mem_append]
      exact ⟨forall_mem_withComma comma h.1, ih h.2⟩

end

theorem append_comma_ne {word : String} (h : endsInComma word = false) (w : String) :
    w ++ "," ≠ word := by
  rintro rfl
  cases h.symm.trans (endsInComma_comma w)

/-! ### Single words with commas between them -/

/-- Words with a comma behind each but the last. -/
def enumeration (ws : List String) : List String := series (ws.map fun w => [w])

theorem enumeration_ne_nil {ws : List String} (h : ws ≠ []) : enumeration ws ≠ [] :=
  series_ne_nil (by simpa using h) (by simp)

theorem flatten_singletons (ws : List String) : (ws.map fun w => [w]).flatten = ws := by
  rw [← List.flatMap_def, List.flatMap_singleton']

theorem intercalate_eq_sentence (ws : List String) :
    ", ".intercalate ws = sentence (enumeration ws) := by
  have rows : ∀ row ∈ ws.map fun w => [w], row ≠ [] := by simp
  have same : sentence ∘ (fun w => [w]) = id := funext sentence_singleton
  rw [enumeration, ← intercalate_sentence rows, List.map_map, same, List.map_id]

theorem map_bare_enumeration {ws : List String} (h : ∀ w ∈ ws, endsInComma w = false) :
    (enumeration ws).map bare = ws := by
  rw [enumeration, map_bare_series, flatten_singletons, map_bare h]
  rw [List.forall_mem_map]
  intro w hw u hu
  rw [List.getLast?_singleton, Option.mem_some] at hu
  exact hu ▸ h w hw

theorem forall_mem_enumeration {P : String → Prop} (comma : ∀ w, P w → P (w ++ ","))
    {ws : List String} (h : ∀ w ∈ ws, P w) : ∀ w ∈ enumeration ws, P w := by
  refine forall_mem_series comma ?_
  rwa [flatten_singletons]

theorem not_mem_enumeration {word : String} {ws : List String} (h : endsInComma word = false)
    (hw : word ∉ ws) : word ∉ enumeration ws := by
  have others : ∀ w ∈ enumeration ws, w ≠ word := by
    refine forall_mem_enumeration (fun w _ => append_comma_ne h w) ?_
    rintro w found rfl
    exact hw found
  exact fun found => others word found rfl

/-! ## Cutting rows of words -/

/-- The words in front of the first `word`, and those behind it. -/
def cutAt (word : String) (ws : List String) : List String × List String :=
  (ws.takeWhile fun w => w ≠ word, (ws.dropWhile fun w => w ≠ word).tail)

theorem cutAt_append {word : String} {front : List String} (h : word ∉ front)
    (rest : List String) : cutAt word (front ++ word :: rest) = (front, rest) := by
  have differs : ∀ w ∈ front, decide (w ≠ word) = true := by
    intro w hw
    rw [decide_eq_true_iff]
    rintro rfl
    exact h hw
  rw [cutAt, List.takeWhile_append_of_pos differs, List.dropWhile_append_of_pos differs]
  simp

/-- The pieces of a row, each up to a word that ends it and with what that word says. -/
def pieces {α : Type} (ends : String → Option α) : List String → List (List String × α)
  | [] => []
  | w :: ws =>
    match ends w with
    | some said => ([], said) :: pieces ends ws
    | none => (pieces ends ws).modifyHead fun piece => (w :: piece.1, piece.2)

theorem pieces_append {α : Type} {ends : String → Option α} {front : List String}
    (h : ∀ w ∈ front, ends w = none) {last : String} {said : α} (hl : ends last = some said)
    (rest : List String) :
    pieces ends (front ++ last :: rest) = (front, said) :: pieces ends rest := by
  induction front with
  | nil => rw [List.nil_append, pieces, hl]
  | cons w front ih =>
    have hw := h w (List.mem_cons_self ..)
    rw [List.cons_append, pieces, hw, ih fun u hu => h u (List.mem_cons_of_mem w hu)]
    rfl

/-- Rows that end in such a word each are the pieces of what they make together. -/
theorem pieces_flatMap {α ι : Type} {ends : String → Option α} {items : List ι}
    {front : ι → List String} {last : ι → String} {said : ι → α}
    (h : ∀ i ∈ items, (∀ w ∈ front i, ends w = none) ∧ ends (last i) = some (said i)) :
    pieces ends (items.flatMap fun i => front i ++ [last i]) =
      items.map fun i => (front i, said i) := by
  induction items with
  | nil => rfl
  | cons i items ih =>
    obtain ⟨hf, hl⟩ := h i (List.mem_cons_self ..)
    rw [List.flatMap_cons, List.append_assoc, List.singleton_append, pieces_append hf hl,
      ih fun j hj => h j (List.mem_cons_of_mem i hj), List.map_cons]

end SqlAssembly
