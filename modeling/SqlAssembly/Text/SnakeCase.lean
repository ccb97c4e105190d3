import SqlAssembly.Text.Alphanumeric
import SqlAssembly.Text.LetterCase

/-!
# Snake case

A name is cut into words, the words are put into lower case and joined by underscores: this models
`to_snake_case`.

* `wordsOfPart` — the words of a part of letters and digits: a word ends where a capital follows
  a small letter, and before the last of several capitals when a small letter follows it.
* `words` — the words of a name; all else but letters and digits only separates them.
* `lowerWord` — a word in lower case, with the final form of sigma at its end.
* `snakeCase` — the words in lower case with underscores between them.
-/

set_option autoImplicit false

namespace SqlAssembly

/-- The case of the letters at the end of the word that is being read. -/
inductive CaseMode where
  /-- There has been no letter with a case. -/
  | uncased
  | lower
  | upper
  deriving DecidableEq, Repr

/-- The mode after one more character; one without a case keeps it. -/
def CaseMode.after (mode : CaseMode) (c : Char) : CaseMode :=
  if isLowercase c then .lower else if isUppercase c then .upper else mode

/-- The words of a part, of which `word` has been read in `mode`. -/
def wordsOfPart (mode : CaseMode) (word : List Char) : List Char → List (List Char)
  | [] => if word.isEmpty then [] else [word]
  | [c] => [word ++ [c]]
  | c :: next :: rest =>
    if mode.after c = .lower ∧ isUppercase next then
      (word ++ [c]) :: wordsOfPart .uncased [] (next :: rest)
    else if mode = .upper ∧ isUppercase c ∧ isLowercase next then
      word :: wordsOfPart .uncased [c] (next :: rest)
    else
      wordsOfPart (mode.after c) (word ++ [c]) (next :: rest)

/-- The words of a name. -/
def words (name : List Char) : List (List Char) :=
  (name.splitOnP fun c => !isAlphanumeric c).flatMap (wordsOfPart .uncased [])

/-- A word in lower case.  A capital sigma that ends it becomes a final sigma. -/
def lowerWord : List Char → List Char
  | [] => []
  | [c] => if c = 'Σ' then ['ς'] else lowercase c
  | c :: rest => lowercase c ++ lowerWord rest

/-- The words of a name in lower case with underscores between them. -/
def snakeCase (name : String) : String :=
  "_".intercalate ((words name.toList).map fun word => String.ofList (lowerWord word))

/-- Cutting a part into words loses no character and keeps their order. -/
theorem flatten_wordsOfPart (mode : CaseMode) (word chars : List Char) :
    (wordsOfPart mode word chars).flatten = word ++ chars := by
  fun_induction wordsOfPart mode word chars with
  | case1 mode word empty => simp_all
  | case2 mode word nonempty => simp
  | case3 => simp
  | case4 mode word c next rest ends ih => simp [ih]
  | case5 mode word c next rest goes ends ih => simp [ih]
  | case6 mode word c next rest goes on ih => simp [ih]

end SqlAssembly
