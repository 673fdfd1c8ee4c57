import GoStubs.Go.Imports
/-!
# Text with unspelled names

A line of Go code before the file's imports are known: stretches of text and, between them,
identifiers of packages. The identifiers in the order in which they stand decide the aliases; once
these are known, the phrase is spelled.
-/

namespace GoStubs.Go

/-- A stretch of text or an identifier. -/
inductive Word where
  /-- A stretch of text. -/
  | text (s : String)
  /-- An identifier of a package. -/
  | ident (i : Ident)
  deriving DecidableEq, Repr

/-- A line of code, or a part of one. -/
abbrev Phrase := List Word

/-- The identifiers of a phrase, in their order. -/
def Phrase.idents (p : Phrase) : List Ident :=
  p.filterMap fun
    | .text _ => none
    | .ident i => some i

/-- How a word is written in a file with the given imports. -/
def Word.spell (imports : Imports) : Word → String
  | text s => s
  | ident i => imports.spell i

/-- How a phrase is written in a file with the given imports. -/
def Phrase.spell (imports : Imports) (p : Phrase) : String :=
  String.join (p.map (Word.spell imports))

/-- The phrases of a list with a text between each two. -/
def Phrase.separated (separator : String) : List Phrase → Phrase
  | [] => []
  | [p] => p
  | p :: q :: ps => p ++ .text separator :: separated separator (q :: ps)

end GoStubs.Go
