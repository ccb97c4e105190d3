import SqlAssembly.Condition.Predicate
import SqlAssembly.Proofs.Statement.Names

/-!
# Membership in a list

One text among the values of a list has all of them quoted, and they are quoted together.  Nothing
is lost by that: the list is the same as if its elements were written one by one.

* `Value.elements` — the elements of a list of values, each as it is written.
* `Value.listing_eq_elements` — a list is its elements with commas between them.
* `Value.readElements` — reads the elements off a list again.
* `Value.listing_eq_iff` — lists with a text are told apart by the texts of their values.
* `Predicate.among_keeps_elements` — what a membership test is written as, and that it tells its
  values apart.
-/

set_option autoImplicit false

namespace SqlAssembly

namespace Value

variable {values first second : List Value}

/-- The elements of a list as they are written: between quotes when one value is a text, whatever
the others are, and as literals otherwise. -/
def elements (values : List Value) : List String :=
  values.map fun v => if values.any isText then quoted v.plain else v.literal

theorem elements_of_text (h : values.any isText = true) :
    elements values = (values.map plain).map quoted := by
  rw [elements, h, List.map_map]
  rfl

theorem ne_nil_of_text (h : values.any isText = true) : values ≠ [] := by
  rintro rfl
  cases h

theorem listing_eq_elements (values : List Value) :
    listing values = ", ".intercalate (elements values) := by
  unfold listing
  split
  · rename_i text
    have nonempty : values.map plain ≠ [] := by simpa using ne_nil_of_text text
    rw [quoted_intercalate nonempty, elements_of_text text]
  · rename_i noText
    simp only [elements, noText]
    rfl

/-! ## Reading a list -/

/-- The elements of a list: what stands between its commas, where a comma between quotes does not
count. -/
def readElements (text : String) : List String := (lexemes text).map bare

theorem readElements_intercalate {items : List String} (nonempty : items ≠ [])
    (h : ∀ item ∈ items, IsAtom item) : readElements (", ".intercalate items) = items := by
  have lexeme : ∀ w ∈ enumeration items, IsLexeme w :=
    forall_mem_enumeration (fun _ => IsLexeme.comma) fun item listed => (h item listed).isLexeme
  rw [readElements, intercalate_eq_sentence, lexemes_sentence (enumeration_ne_nil nonempty) lexeme,
    map_bare_enumeration fun item listed => (h item listed).not_endsInComma]

/-- A list with a text gives its elements back. -/
theorem readElements_listing (text : values.any isText = true)
    (noQuote : ∀ v ∈ values, '\'' ∉ v.plain.toList) :
    readElements (listing values) = (values.map plain).map quoted := by
  rw [listing_eq_elements, elements_of_text text]
  refine readElements_intercalate (by simpa using ne_nil_of_text text) ?_
  rw [List.map_map, List.forall_mem_map]
  exact fun v listed => .quoted (noQuote v listed)

/-- Lists with a text are the same exactly when the texts of their values are, one by one. -/
theorem listing_eq_iff (text : first.any isText = true) (text' : second.any isText = true)
    (noQuote : ∀ v ∈ first ++ second, '\'' ∉ v.plain.toList) :
    listing first = listing second ↔ first.map plain = second.map plain := by
  rw [List.forall_mem_append] at noQuote
  constructor
  · intro same
    have elements := congrArg readElements same
    rw [readElements_listing text noQuote.1, readElements_listing text' noQuote.2] at elements
    exact List.map_injective_iff.2 (fun _ _ => quoted_inj.1) elements
  · intro same
    rw [listing_eq_elements, listing_eq_elements, elements_of_text text, elements_of_text text',
      same]

end Value

/-- **A membership test keeps every element.**  However its values are grouped, a test is written as
the elements of their list with commas between them, where all are quoted as soon as one value is a
text.  Two lists with a text are the same only if the texts of their values are, one by one, as
long as none of these texts has a quote in it. -/
theorem Predicate.among_keeps_elements (target : String) (negated : Bool)
    (values : Arguments Value) :
    (Predicate.among target negated values).text =
        target ++ (if negated then " NOT IN (" else " IN (") ++
          ", ".intercalate (Value.elements values.toList) ++ ")" ∧
      ∀ first second : List Value, first.any Value.isText = true →
        second.any Value.isText = true → (∀ v ∈ first ++ second, '\'' ∉ v.plain.toList) →
          (Value.listing first = Value.listing second ↔
            first.map Value.plain = second.map Value.plain) := by
  refine ⟨?_, fun _ _ => Value.listing_eq_iff⟩
  have words : " NOT IN (" = " " ++ ("NOT " ++ "IN") ++ " (" ∧ " IN (" = " " ++ "IN" ++ " (" := by
    decide
  rw [among_eq, text, Value.listing_eq_elements, words.1, words.2]
  cases negated <;> simp only [keyword, String.append_assoc] <;> rfl

/-- A comma in a text divides nothing, and a number beside a text is quoted. -/
theorem Predicate.among_keeps_elements_commaInText :
    (Predicate.among "id" true
        (.group [.many [.int 1, .null], .none, .group [.one (.text "a, b")]])).text =
      "id NOT IN ('1', 'NULL', 'a, b')" ∧
    Value.listing [.int 1, .text "a, b"] ≠ Value.listing [.int 1, .text "a", .text "b"] := by
  obtain ⟨written, apart⟩ := among_keeps_elements "id" true
    (.group [.many [.int 1, .null], .none, .group [.one (.text "a, b")]])
  refine ⟨written.trans (by decide), ?_⟩
  rw [Ne, apart _ _ (by decide) (by decide) (by decide)]
  decide

end SqlAssembly
