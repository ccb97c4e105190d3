import SqlAssembly.Declaration.Flaw
import SqlAssembly.Declaration.Word

/-!
# Options of a declaration

Attributes with the path `db` hold options, separated by commas; a comma may follow the last one.

* `Token`, `Attribute` — what stands in front of a record or a field.
* `Entry` — an option with its text: the table of a record, the column of a field, or that the
  field is skipped.
* `readEntries` — the loop of `DbAttr::parse`: the entries that tokens spell.  Each iteration is one
  entry; `announce` is its test of the word in front.
* `Options`, `Options.ofEntries` — the `DbAttr` that the loop leaves: the entries of one attribute
  taken together.  Of two texts for one option the later one counts.
* `readOptions` — `db_attrs`: the options of a record or of a field, merged attribute by attribute.
  `mergeAttribute` is one iteration.
-/

set_option autoImplicit false

namespace SqlAssembly

/-- A token between the brackets of an attribute. -/
inductive Token where
  | word (word : Word)
  | text (content : String)
  | number (number : Int)
  | equals
  | comma
  deriving DecidableEq, Repr

/-- What follows the path of an attribute. -/
inductive AttributeBody where
  | nothing
  | value (content : String)
  /-- A list of tokens in brackets.  The delimiter of the list, which kind of brackets these are, is
  not represented: `parse_args` takes the tokens out of any of them and ignores it. -/
  | tokens (tokens : List Token)
  deriving DecidableEq, Repr

/-- An attribute of a record or of a field. -/
structure Attribute where
  path : Word
  body : AttributeBody
  deriving DecidableEq, Repr

/-- An option with its text. -/
inductive Entry where
  | table (name : String)
  | column (name : String)
  | skip
  deriving DecidableEq, Repr

/-- What a word at the start of an option announces. -/
inductive Announcement where
  /-- An option that is complete. -/
  | complete (entry : Entry)
  /-- An option that takes a text behind an equals sign. -/
  | awaitsText (entry : String → Entry)

/-- What a word announces.  A raw word is never the name of an option. -/
def announce (w : Word) : Except Flaw Announcement :=
  if w.isReserved || w.isUnderscore then .error (.reserved w.written)
  else if w.written = "skip" then .ok (.complete .skip)
  else if w.written = "table" then .ok (.awaitsText .table)
  else if w.written = "column" then .ok (.awaitsText .column)
  else .error (.unknownOption w.written)

/-- The entries that tokens spell.  The first token that does not fit decides the flaw. -/
def readEntries : List Token → Except Flaw (List Entry)
  | [] => .ok []
  | .word w :: rest =>
    match announce w with
    | .error flaw => .error flaw
    | .ok (.complete entry) =>
      match rest with
      | [] => .ok [entry]
      | .comma :: more => (readEntries more).map (entry :: ·)
      | _ :: _ => .error .excess
    | .ok (.awaitsText entry) =>
      match rest with
      | [.equals, .text content] => .ok [entry content]
      | .equals :: .text content :: .comma :: more =>
        (readEntries more).map (entry content :: ·)
      | .equals :: .text _ :: _ :: _ => .error .excess
      | [.equals] => .error .noText
      | .equals :: _ :: _ => .error .otherThanText
      | _ => .error .noEquals
  | _ :: _ => .error .noWord

/-- The entries that an attribute with the path `db` holds. -/
def AttributeBody.entries : AttributeBody → Except Flaw (List Entry)
  | .nothing => .error .noOptions
  | .value _ => .error .valueForOptions
  | .tokens inside => readEntries inside

/-- Entries taken together. -/
structure Options where
  table : Option String := none
  column : Option String := none
  skip : Bool := false
  deriving DecidableEq, Repr

namespace Options

/-- One more entry. -/
def add (o : Options) : Entry → Options
  | .table name => { o with table := some name }
  | .column name => { o with column := some name }
  | .skip => { o with skip := true }

/-- Entries taken together: of two texts for one option the later one counts. -/
def ofEntries (entries : List Entry) : Options := entries.foldl add {}

theorem ofEntries_append (first second : List Entry) :
    ofEntries (first ++ second) = second.foldl add (ofEntries first) := by
  simp [ofEntries]

/-- Options behind others: a text of theirs counts, and else one that was given before. -/
def merge (earlier later : Options) : Options where
  table := later.table.or earlier.table
  column := later.column.or earlier.column
  skip := earlier.skip || later.skip

end Options

/-- One more attribute.  It is left out if it has another path, whatever it holds. -/
def mergeAttribute (merged : Options) (a : Attribute) : Except Flaw Options :=
  if a.path.written = "db" then
    a.body.entries.map fun entries => merged.merge (Options.ofEntries entries)
  else .ok merged

/-- The options that attributes give. -/
def readOptions (attributes : List Attribute) : Except Flaw Options :=
  attributes.foldlM mergeAttribute {}

end SqlAssembly
