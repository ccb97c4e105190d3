import SqlAssembly.Proofs.Schema.QualifiedName

/-!
# Names with blanks around them

* `isPadding` — a text of nothing but blanks, which can be put around a name.
* `trim_pad`, `readIdentifier_congr`, `readTableName_congr` — readers see of a text only what is
  left when the blanks at its ends are gone.
* `isTableName_of_isIdentifier` — an identifier is the name of a table.
* `IsSpelled` — there is no blank in a name, and its parts are identifiers.
* `names_read_through_padding` — padding makes no difference to what is read or reported, and a name
  that was read is read as itself.
-/

set_option autoImplicit false

namespace SqlAssembly

/-- Whether a text is nothing but blanks. -/
def isPadding (text : String) : Bool := text.toList.all isBlank

variable {subject name : String}

/-! ## What readers see -/

theorem trim_pad {before behind : String} (hb : isPadding before = true)
    (ha : isPadding behind = true) (text : String) :
    trim (before ++ text ++ behind) = trim text := by
  rw [trim, trim, String.toList_append, String.toList_append,
    trimChars_pad (List.all_eq_true.1 hb) (List.all_eq_true.1 ha)]

theorem readIdentifier_congr {first second : String} (h : trim first = trim second)
    (subject : String) : readIdentifier subject first = readIdentifier subject second := by
  rw [readIdentifier, readIdentifier, h]

theorem readTableName_congr {first second : String} (h : trim first = trim second) :
    readTableName first = readTableName second := by
  rw [readTableName, readTableName, h]

/-! ## What was read -/

theorem isTableName_of_isIdentifier (h : isIdentifier name = true) : isTableName name = true :=
  (isPlainOrQualified_iff.1 (Or.inl h)).1

theorem readIdentifier_self_iff :
    readIdentifier subject name = .ok name ↔ isIdentifier name = true := by
  rw [readIdentifier_eq_ok_iff]
  exact and_eq_trim_iff isIdentifier fun identifier =>
    trim_of_isTableName (isTableName_of_isIdentifier identifier)

/-- A name as it is spelled: there is no blank in it, and between its points there are
identifiers. -/
structure IsSpelled (name : String) : Prop where
  solid : ∀ c ∈ name.toList, isBlank c = false
  parts : ∀ part ∈ name.toList.splitOn '.', isIdentifier (String.ofList part) = true

theorem isSpelled_of_isTableName (h : isTableName name = true) : IsSpelled name := by
  refine ⟨isBlank_of_mem_tableName h, fun part listed => ?_⟩
  rw [isIdentifier, String.toList_ofList]
  exact List.all_eq_true.1 h part listed

/-- **Names are read through padding.**  Blanks put around a text change neither the name that is
read nor what is reported when it is none.  A name that was read is spelled without blanks, its
parts are identifiers, and it is read as itself; and what is read as an identifier is read as the
same name of a table. -/
theorem names_read_through_padding (text : String) :
    (∀ before behind : String, isPadding before = true → isPadding behind = true →
      (∀ subject : String,
        readIdentifier subject (before ++ text ++ behind) = readIdentifier subject text) ∧
      readTableName (before ++ text ++ behind) = readTableName text) ∧
    (∀ subject name : String, readIdentifier subject text = .ok name →
      IsSpelled name ∧ (∀ other : String, readIdentifier other name = .ok name) ∧
        readTableName text = .ok name) ∧
    ∀ name : String, readTableName text = .ok name →
      IsSpelled name ∧ readTableName name = .ok name := by
  refine ⟨fun before behind hb ha => ?_, fun subject name read => ?_, fun name read => ?_⟩
  · have same := trim_pad hb ha text
    exact ⟨readIdentifier_congr same, readTableName_congr same⟩
  · obtain ⟨identifier, rfl⟩ := readIdentifier_eq_ok_iff.1 read
    have named := isTableName_of_isIdentifier identifier
    refine ⟨isSpelled_of_isTableName named, fun other => ?_, ?_⟩
    · exact readIdentifier_self_iff.2 identifier
    · exact readTableName_eq_ok_iff.2 ⟨named, rfl⟩
  · obtain ⟨named, rfl⟩ := readTableName_eq_ok_iff.1 read
    exact ⟨isSpelled_of_isTableName named, readTableName_self_iff.2 named⟩

/-- An em space in front of a name, and a line break behind the space at its end. -/
theorem names_read_through_padding_emSpace :
    isPadding "\u2003" = true ∧ isPadding "\r\n" = true ∧
      readTableName ("\u2003" ++ "users " ++ "\r\n") = readTableName "users " ∧
      readIdentifier "column" "users " = .ok "users" ∧ IsSpelled "users" ∧
      readTableName "users " = .ok "users" ∧ readTableName "users" = .ok "users" := by
  obtain ⟨padded, identifiers, tables⟩ := names_read_through_padding "users "
  obtain ⟨spelled, -, table⟩ := identifiers "column" "users" (by decide)
  refine ⟨by decide, by decide, (padded "\u2003" "\r\n" (by decide) (by decide)).2, by decide,
    spelled, table, (tables "users" table).2⟩

end SqlAssembly
