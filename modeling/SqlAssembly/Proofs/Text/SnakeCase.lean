import SqlAssembly.Proofs.Schema.Identifier
import SqlAssembly.Text.SnakeCase

/-!
# Names of tables in snake case

When a name in snake case is an identifier, told from the letters and digits of the name alone.

* `flatten_words`, `ne_nil_of_mem_words` — the words of a name are its letters and digits, and no
  word is empty.
* `IsPlainLetter` — the letters and digits whose lower case is ASCII.
* `lowercase_cases` — the lower case of a letter or digit, which is never a point.
* `IsPlainName` — the letters and digits of a name are plain, and a letter comes first.
* `snakeCase_eq_empty_iff` — when nothing is left of a name in snake case.
* `isTableName_snakeCase_iff` — when a name in snake case names a table.
-/

set_option autoImplicit false

namespace SqlAssembly

/-! ## Words -/

theorem flatten_splitOnP (p : Char → Bool) (chars : List Char) :
    (chars.splitOnP p).flatten = chars.filter fun c => !p c := by
  induction chars with
  | nil => rfl
  | cons c rest ih =>
    rw [List.splitOnP_cons_eq_if_modifyHead]
    cases h : p c with
    | true => simpa [h] using ih
    | false =>
      obtain ⟨first, others, shape⟩ := List.exists_cons_of_ne_nil (List.splitOnP_ne_nil p rest)
      rw [shape] at ih ⊢
      simpa [h] using ih

/-- The words of a name hold its letters and digits in their order. -/
theorem flatten_words (name : List Char) : (words name).flatten = name.filter isAlphanumeric := by
  have part : ∀ chars, (wordsOfPart .uncased [] chars).flatten = chars := fun chars =>
    flatten_wordsOfPart .uncased [] chars
  have parts : ∀ parts : List (List Char),
      (parts.flatMap (wordsOfPart .uncased [])).flatten = parts.flatten := by
    intro parts
    induction parts with
    | nil => rfl
    | cons first others ih =>
      rw [List.flatMap_cons, List.flatten_append, part, ih, List.flatten_cons]
  rw [words, parts, flatten_splitOnP]
  simp

/-- No word is empty: one ends before a further capital only if it holds a capital. -/
theorem ne_nil_of_mem_wordsOfPart {mode : CaseMode} {word chars : List Char}
    (begun : mode = .upper → word ≠ []) : ∀ w ∈ wordsOfPart mode word chars, w ≠ [] := by
  fun_induction wordsOfPart mode word chars with
  | case1 => simp
  | case2 mode word nonempty => simpa using nonempty
  | case3 mode word c => simp
  | case4 mode word c next rest ends ih => simpa using ih
  | case5 mode word c next rest goes ends ih => simpa using ⟨begun ends.1, ih (by simp)⟩
  | case6 mode word c next rest goes on ih => exact ih fun _ => by simp

theorem ne_nil_of_mem_words {name : List Char} : ∀ w ∈ words name, w ≠ [] := by
  intro w found
  obtain ⟨part, -, found⟩ := List.mem_flatMap.1 found
  exact ne_nil_of_mem_wordsOfPart (fun upper => by cases upper) w found

/-! ## Lower case -/

/-- The sign of the kelvin, a capital beyond ASCII with the lower case of the letter K. -/
def kelvinSign : Char := Char.ofNat 0x212A

/-- The letters and digits whose lower case is ASCII. -/
def IsPlainLetter (c : Char) : Prop := c.isAlphanum = true ∨ c = kelvinSign

theorem toNat_lt_of_isAlphanum {c : Char} (h : c.isAlphanum = true) : c.toNat < 128 := by
  have inner : continuesIdentifier c = true := by simp [continuesIdentifier, h]
  have := toNat_of_continuesIdentifier inner
  omega

/-- The lower case of an ASCII letter or digit goes on an identifier, and starts one unless it is
a digit. -/
theorem identifier_toLower {c : Char} (h : c.isAlphanum = true) :
    continuesIdentifier c.toLower = true ∧ startsIdentifier c.toLower = !c.isDigit := by
  have table : ∀ code < 128, (Char.ofNat code).isAlphanum = true →
      continuesIdentifier (Char.ofNat code).toLower = true ∧
        startsIdentifier (Char.ofNat code).toLower = !(Char.ofNat code).isDigit := by decide
  have := table c.toNat (toNat_lt_of_isAlphanum h)
  rw [Char.ofNat_toNat] at this
  exact this h

/-- Apart from the sign of the kelvin, a letter beyond ASCII has a lower case beyond ASCII. -/
theorem loweringRuns_beyond_ascii : ∀ run ∈ loweringRuns,
    run.first = kelvinSign.toNat ∧ run.last = kelvinSign.toNat ∨
      128 ≤ run.lower ∧ run.first ≤ run.last ∧
        (run.lower + (run.last - run.first) < 0xD800 ∨
          0xE000 ≤ run.lower ∧ run.lower + (run.last - run.first) < 0x110000) := by
  decide +kernel

theorem beyond_ascii_singleton {c : Char} (h : 128 ≤ c.toNat) :
    '.' ∉ [c] ∧ ∃ d ∈ [c], 128 ≤ d.toNat := by
  refine ⟨fun point => ?_, c, List.mem_singleton_self c, h⟩
  rw [← List.mem_singleton.1 point] at h
  exact absurd h (by decide)

/-- Apart from the sign of the kelvin, a letter beyond ASCII has a lower case without a point and
with a character beyond ASCII. -/
theorem lowercase_of_beyond_ascii {c : Char} (beyond : 128 ≤ c.toNat) (other : c ≠ kelvinSign) :
    '.' ∉ lowercase c ∧ ∃ d ∈ lowercase c, 128 ≤ d.toNat := by
  unfold lowercase
  rw [if_neg (Nat.not_lt.2 beyond)]
  split
  -- the one lower case of two characters: the second is beyond ASCII
  · exact ⟨by decide, _, List.mem_cons_of_mem _ (List.mem_singleton_self _), by decide⟩
  · split
    · rename_i run found
      have within := List.find?_some found
      simp only [Run.contains, Bool.and_eq_true, decide_eq_true_eq] at within
      have code : c.toNat ≠ kelvinSign.toNat := fun same => other (Char.toNat_inj.1 same)
      have table := loweringRuns_beyond_ascii run (List.mem_of_find?_eq_some found)
      have valid : (run.lower + (c.toNat - run.first)).isValidChar := by
        unfold Nat.isValidChar
        omega
      have high : 128 ≤ (Char.ofNat (run.lower + (c.toNat - run.first))).toNat := by
        rw [Char.ofNat, dif_pos valid]
        show 128 ≤ run.lower + (c.toNat - run.first)
        omega
      exact beyond_ascii_singleton high
    · exact beyond_ascii_singleton beyond

/-- The lower case of a letter or digit: one character if it is plain, and else there is one beyond
ASCII in it.  It never holds a point. -/
theorem lowercase_cases {c : Char} (h : isAlphanumeric c = true) :
    (c.isAlphanum = true ∧ lowercase c = [c.toLower]) ∨
      (c = kelvinSign ∧ lowercase c = ['k']) ∨
        ¬ IsPlainLetter c ∧ '.' ∉ lowercase c ∧ ∃ d ∈ lowercase c, 128 ≤ d.toNat := by
  by_cases ascii : c.toNat < 128
  · rw [isAlphanumeric_of_ascii ascii] at h
    exact Or.inl ⟨h, lowercase_of_ascii ascii⟩
  · by_cases kelvin : c = kelvinSign
    · subst kelvin
      exact Or.inr (Or.inl ⟨rfl, by decide⟩)
    · refine Or.inr (Or.inr ⟨?_, lowercase_of_beyond_ascii (Nat.not_lt.1 ascii) kelvin⟩)
      rintro (plain | same)
      · exact ascii (toNat_lt_of_isAlphanum plain)
      · exact kelvin same

/-- The lower case of a letter or digit goes on an identifier exactly if it is plain. -/
theorem forall_mem_lowercase_iff {c : Char} (h : isAlphanumeric c = true) :
    (∀ d ∈ lowercase c, continuesIdentifier d = true) ↔ IsPlainLetter c := by
  rcases lowercase_cases h with ⟨usual, lower⟩ | ⟨rfl, lower⟩ | ⟨odd, -, d, found, beyond⟩
  · rw [lower, List.forall_mem_singleton]
    exact iff_of_true (identifier_toLower usual).1 (Or.inl usual)
  · rw [lower, List.forall_mem_singleton]
    exact iff_of_true (by decide) (Or.inr rfl)
  · refine iff_of_false (fun all => ?_) odd
    have := toNat_of_continuesIdentifier (all d found)
    omega

theorem point_not_mem_lowercase {c : Char} (h : isAlphanumeric c = true) : '.' ∉ lowercase c := by
  rcases lowercase_cases h with ⟨usual, lower⟩ | ⟨-, lower⟩ | ⟨-, point, -⟩
  · intro point
    rw [lower, List.mem_singleton] at point
    have := (identifier_toLower usual).1
    rw [← point] at this
    exact absurd this (by decide)
  · rw [lower]
    decide
  · exact point

/-! ## Words in lower case -/

/-- A word is put into lower case letter by letter, apart from a capital sigma at its end. -/
theorem lowerWord_cons (c : Char) (rest : List Char) :
    (c = 'Σ' ∧ rest = []) ∨ lowerWord (c :: rest) = lowercase c ++ lowerWord rest := by
  cases rest with
  | nil =>
    by_cases sigma : c = 'Σ'
    · exact Or.inl ⟨sigma, rfl⟩
    · exact Or.inr (by simp [lowerWord, sigma])
  | cons => exact Or.inr rfl

theorem not_isPlainLetter_sigma : ¬ IsPlainLetter 'Σ' := by
  rintro (usual | kelvin)
  · exact absurd usual (by decide)
  · exact absurd (congrArg Char.toNat kelvin) (by decide)

theorem forall_mem_lowerWord_iff {word : List Char} (h : ∀ c ∈ word, isAlphanumeric c = true) :
    (∀ d ∈ lowerWord word, continuesIdentifier d = true) ↔ ∀ c ∈ word, IsPlainLetter c := by
  induction word with
  | nil => simp [lowerWord]
  | cons c rest ih =>
    obtain ⟨first, others⟩ := List.forall_mem_cons.1 h
    rcases lowerWord_cons c rest with ⟨rfl, rfl⟩ | lower
    · have lower : lowerWord ['Σ'] = ['ς'] := rfl
      rw [lower, List.forall_mem_singleton, List.forall_mem_singleton]
      exact iff_of_false (by decide) not_isPlainLetter_sigma
    · rw [lower, List.forall_mem_append, forall_mem_lowercase_iff first, ih others,
        List.forall_mem_cons]

theorem point_not_mem_lowerWord {word : List Char} (h : ∀ c ∈ word, isAlphanumeric c = true) :
    '.' ∉ lowerWord word := by
  induction word with
  | nil => exact List.not_mem_nil
  | cons c rest ih =>
    obtain ⟨first, others⟩ := List.forall_mem_cons.1 h
    rcases lowerWord_cons c rest with ⟨rfl, rfl⟩ | lower
    · decide
    · rw [lower, List.mem_append, not_or]
      exact ⟨point_not_mem_lowercase first, ih others⟩

/-- A word that starts with a plain character is in lower case a start of an identifier unless that
is a digit. -/
theorem head?_lowerWord {c : Char} (h : IsPlainLetter c) (rest : List Char) :
    ∃ first, (lowerWord (c :: rest)).head? = some first ∧
      startsIdentifier first = !c.isDigit := by
  rcases lowerWord_cons c rest with ⟨rfl, -⟩ | lower
  · exact absurd h not_isPlainLetter_sigma
  rw [lower]
  rcases h with usual | rfl
  · have ascii := lowercase_of_ascii (toNat_lt_of_isAlphanum usual)
    exact ⟨c.toLower, by rw [ascii]; rfl, (identifier_toLower usual).2⟩
  · exact ⟨'k', rfl, by decide⟩

/-! ## Names in lower case -/

/-- The letters and digits of a name are plain, and the first of them is a letter. -/
structure IsPlainName (name : List Char) : Prop where
  plain : ∀ c ∈ name, isAlphanumeric c = true → IsPlainLetter c
  start : ∃ c, name.find? isAlphanumeric = some c ∧ c.isDigit = false

theorem formIdentifier_iff {chars : List Char} :
    formIdentifier chars = true ↔
      (∀ c ∈ chars, continuesIdentifier c = true) ∧
        ∃ first, chars.head? = some first ∧ startsIdentifier first = true := by
  cases chars with
  | nil => simp [formIdentifier]
  | cons first rest =>
    simp only [formIdentifier, Bool.and_eq_true, List.all_eq_true, List.forall_mem_cons,
      List.head?_cons, Option.some.injEq, exists_eq_left']
    constructor
    · rintro ⟨starts, goes⟩
      exact ⟨⟨continuesIdentifier_of_starts starts, goes⟩, starts⟩
    · rintro ⟨⟨-, goes⟩, starts⟩
      exact ⟨starts, goes⟩

/-- What stands first in the words of a name is its first letter or digit. -/
theorem find?_eq_head?_words (name : List Char) :
    name.find? isAlphanumeric = (words name).flatten.head? := by
  rw [flatten_words, List.head?_filter]

theorem isAlphanumeric_of_mem_words {name : List Char} :
    ∀ word ∈ words name, ∀ c ∈ word, isAlphanumeric c = true := by
  intro word listed c found
  have inside := List.mem_flatten_of_mem listed found
  rw [flatten_words] at inside
  exact (List.mem_filter.1 inside).2

theorem toList_snakeCase (name : String) :
    (snakeCase name).toList = ['_'].intercalate ((words name.toList).map lowerWord) := by
  have underscore : "_".toList = ['_'] := by decide
  have same : String.toList ∘ (fun word => String.ofList (lowerWord word)) = lowerWord := by
    funext word
    exact String.toList_ofList
  rw [snakeCase, String.toList_intercalate, underscore, List.map_map, same]

/-- Where an underscore has a property, a name in snake case has it exactly when its words do. -/
theorem forall_mem_snakeCase_iff {p : Char → Prop} (h : p '_') (name : String) :
    (∀ d ∈ (snakeCase name).toList, p d) ↔
      ∀ word ∈ words name.toList, ∀ d ∈ lowerWord word, p d := by
  rw [toList_snakeCase, forall_mem_intercalate_iff (List.forall_mem_singleton.2 h),
    List.forall_mem_map]

theorem forall_mem_words_iff {p : Char → Prop} {name : List Char} :
    (∀ word ∈ words name, ∀ c ∈ word, p c) ↔ ∀ c ∈ name, isAlphanumeric c = true → p c := by
  have flat : (∀ word ∈ words name, ∀ c ∈ word, p c) ↔ ∀ c ∈ (words name).flatten, p c := by
    simp only [List.mem_flatten]
    exact ⟨fun h c ⟨word, listed, found⟩ => h word listed c found,
      fun h word listed c found => h c ⟨word, listed, found⟩⟩
  rw [flat, flatten_words]
  simp only [List.mem_filter, and_imp]

/-- All of a name in snake case can stand in an identifier when its letters and digits are plain. -/
theorem continues_snakeCase_iff (name : String) :
    (∀ d ∈ (snakeCase name).toList, continuesIdentifier d = true) ↔
      ∀ c ∈ name.toList, isAlphanumeric c = true → IsPlainLetter c := by
  rw [forall_mem_snakeCase_iff (by decide), ← forall_mem_words_iff]
  exact forall₂_congr fun word listed =>
    forall_mem_lowerWord_iff (isAlphanumeric_of_mem_words word listed)

theorem point_not_mem_snakeCase (name : String) : '.' ∉ (snakeCase name).toList := by
  have : ∀ d ∈ (snakeCase name).toList, d ≠ '.' := by
    rw [forall_mem_snakeCase_iff (by decide)]
    rintro word listed d found rfl
    exact point_not_mem_lowerWord (isAlphanumeric_of_mem_words word listed) found
  exact fun found => this _ found rfl

/-- A name in snake case starts like its first word in lower case. -/
theorem snakeCase_start (name : String) :
    (name.toList.find? isAlphanumeric = none ∧ snakeCase name = "") ∨
      ∃ c rest more, name.toList.find? isAlphanumeric = some c ∧ isAlphanumeric c = true ∧
        (snakeCase name).toList = lowerWord (c :: rest) ++ more := by
  have first := find?_eq_head?_words name.toList
  have text := toList_snakeCase name
  cases shape : words name.toList with
  | nil =>
    rw [shape] at first text
    exact Or.inl ⟨first, String.toList_eq_nil_iff.1 text⟩
  | cons word others =>
    have listed : word ∈ words name.toList := by
      rw [shape]
      exact List.mem_cons_self
    obtain ⟨c, rest, rfl⟩ := List.exists_cons_of_ne_nil (ne_nil_of_mem_words word listed)
    have letter := isAlphanumeric_of_mem_words _ listed c List.mem_cons_self
    rw [shape] at first text
    rw [List.map_cons] at text
    cases others with
    | nil => exact Or.inr ⟨c, rest, [], first, letter, by simpa using text⟩
    | cons next others =>
      rw [List.map_cons, List.intercalate_cons_cons, List.append_assoc] at text
      exact Or.inr ⟨c, rest, _, first, letter, text⟩

theorem lowerWord_ne_nil {c : Char} (h : isAlphanumeric c = true) (rest : List Char) :
    lowerWord (c :: rest) ≠ [] := by
  rcases lowerWord_cons c rest with ⟨rfl, rfl⟩ | lower
  · decide
  rw [lower]
  rcases lowercase_cases h with ⟨-, lower⟩ | ⟨-, lower⟩ | ⟨-, -, d, found, -⟩
  · simp [lower]
  · simp [lower]
  · exact List.append_ne_nil_of_left_ne_nil (List.ne_nil_of_mem found) _

/-- Nothing is left of a name in snake case exactly when it has no letters and digits. -/
theorem snakeCase_ne_empty_iff (name : String) :
    snakeCase name ≠ "" ↔ ∃ c ∈ name.toList, isAlphanumeric c = true := by
  have found : (∃ c ∈ name.toList, isAlphanumeric c = true) ↔
      name.toList.find? isAlphanumeric ≠ none := by
    rw [ne_eq, List.find?_eq_none]
    push Not
    rfl
  rw [found]
  rcases snakeCase_start name with ⟨absent, empty⟩ | ⟨c, rest, more, first, letter, text⟩
  · exact iff_of_false (fun h => h empty) (fun h => h absent)
  · refine iff_of_true (fun empty => ?_) (by simp [first])
    rw [empty] at text
    exact lowerWord_ne_nil letter rest (List.append_eq_nil_iff.1 text.symm).1

/-- **When a name in snake case names a table**: its letters and digits are plain, and the first
of them is a letter. -/
theorem isTableName_snakeCase_iff (name : String) :
    isTableName (snakeCase name) = true ↔ IsPlainName name.toList := by
  have whole : isTableName (snakeCase name) = formIdentifier (snakeCase name).toList := by
    rw [isTableName, List.splitOn_eq_singleton (point_not_mem_snakeCase name)]
    exact Bool.and_true _
  rw [whole, formIdentifier_iff, continues_snakeCase_iff]
  constructor
  · rintro ⟨plain, first, head, starts⟩
    refine ⟨plain, ?_⟩
    rcases snakeCase_start name with ⟨-, empty⟩ | ⟨c, rest, more, found, letter, text⟩
    · rw [empty] at head
      cases head
    · have inside := List.mem_of_find?_eq_some found
      obtain ⟨start, lower, digit⟩ := head?_lowerWord (plain c inside letter) rest
      rw [text, List.head?_append, lower, Option.some_or, Option.some.injEq] at head
      rw [← head, digit, Bool.not_eq_true'] at starts
      exact ⟨c, found, starts⟩
  · rintro ⟨plain, c, found, digit⟩
    refine ⟨plain, ?_⟩
    rcases snakeCase_start name with ⟨absent, -⟩ | ⟨c', rest, more, found', letter, text⟩
    · rw [absent] at found
      cases found
    · cases found.symm.trans found'
      have inside := List.mem_of_find?_eq_some found
      obtain ⟨start, lower, starts⟩ := head?_lowerWord (plain c inside letter) rest
      refine ⟨start, ?_, by rw [starts, digit]; rfl⟩
      rw [text, List.head?_append, lower]
      rfl

end SqlAssembly
