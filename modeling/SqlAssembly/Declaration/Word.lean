/-!
# Words of a declaration

* `Word` — a name as it stands in a declaration (`Ident`), possibly raw.
* `Word.ofText`, `Word.written` — reading and writing the mark of a raw word.
* `Word.isReserved` — whether a word cannot serve as a name; a raw word always can.
* `Word.isPath` — whether a word can serve as the path of an attribute.
-/

set_option autoImplicit false

namespace SqlAssembly

/-- A name in a declaration.  A raw word carries a mark in front of it and may be spelled like a
reserved one. -/
structure Word where
  /-- The word without the mark. -/
  text : String
  raw : Bool := false
  deriving DecidableEq, Repr

/-- The words that name nothing unless they are raw. -/
def reservedWords : List String :=
  ["abstract", "as", "async", "await", "become", "box", "break", "const", "continue", "crate",
    "do", "dyn", "else", "enum", "extern", "false", "final", "fn", "for", "if", "impl", "in",
    "let", "loop", "macro", "match", "mod", "move", "mut", "override", "priv", "pub", "ref",
    "return", "Self", "self", "static", "struct", "super", "trait", "true", "try", "type",
    "typeof", "unsafe", "unsized", "use", "virtual", "where", "while", "yield"]

/-- The reserved words that are paths all the same. -/
def reservedPaths : List String := ["crate", "self", "Self", "super", "unsafe"]

namespace Word

/-- Reads a word; `r#` in front of it marks a raw one. -/
def ofText (source : String) : Word :=
  match source.toList with
  | 'r' :: '#' :: rest => ⟨String.ofList rest, true⟩
  | _ => ⟨source, false⟩

/-- A word with its mark. -/
def written (w : Word) : String := if w.raw then "r#" ++ w.text else w.text

/-- Whether a word is spelled like a reserved one and is not raw. -/
def isReserved (w : Word) : Bool := !w.raw && reservedWords.contains w.text

/-- A single underscore, which names a field but nothing else. -/
def isUnderscore (w : Word) : Bool := w.written == "_"

/-- The word that marks a public field, and so never names one. -/
def isVisibility (w : Word) : Bool := w.written == "pub"

/-- Whether a word can be the path of an attribute: a few reserved words can. -/
def isPath (w : Word) : Bool :=
  !w.isUnderscore && (!w.isReserved || reservedPaths.contains w.text)

end Word

end SqlAssembly
