import GoStubs.Go.Package
/-!
# The imports of a Go file

A file imports each foreign package under an alias that is unique in the file. The alias of a
package is chosen when the file first mentions it and never changes afterwards: the first free
one of the package's suggested name `base` and of `base1`, `base2` and so on.

* `Imports.freshAlias`: the alias that a path would get.
* `Imports.add`: makes sure that a path has an alias.
* `Imports.spell`: how an identifier is written in the file.
* `Imports.sorted`: the lines of the import block, in the order of their paths.
-/

namespace GoStubs.Go

/-- A line of the import block. -/
structure Import where
  path : String
  /-- The name of the package in this file. -/
  name : String
  deriving DecidableEq, Repr

/-- The import, put before the first one with a greater path. -/
def Import.insertSorted (i : Import) : List Import → List Import
  | [] => [i]
  | j :: js => if i.path < j.path then i :: j :: js else j :: i.insertSorted js

/-- The imports of one file. -/
structure Imports where
  /-- The path of the package that the file belongs to, which it does not import. -/
  ownPath : String
  /-- The imports, in the order in which they got their aliases. -/
  entries : List Import
  deriving DecidableEq, Repr

namespace Imports

/-- The imports of a file of the given package that mentions nothing yet. The name of the package
is not declared in the file, so it may become an alias. -/
def ofPackage (own : Package) : Imports := ⟨own.importPath, []⟩

/-- Whether the file imports nothing. -/
def isEmpty (imports : Imports) : Bool := imports.entries.isEmpty

/-- The aliases, in the order in which they were chosen. -/
def aliases (imports : Imports) : List String := imports.entries.map (·.name)

/-- The alias of a path. -/
def aliasOf? (imports : Imports) (path : String) : Option String :=
  (imports.entries.find? (·.path = path)).map (·.name)

/-- The name itself for zero, else the name with the number behind it. -/
def numbered (base : String) (n : Nat) : String := if n = 0 then base else base ++ toString n

/-- The names that an alias must avoid. -/
def taken (imports : Imports) : List String := predeclared ++ imports.aliases

/-- The first name of `base`, `base1`, `base2`, … that is not among the given ones. One more
name than are given has to be tried at most. -/
def firstFree (base : String) (taken : List String) : String :=
  (((List.range (taken.length + 1)).map (numbered base)).find? (!taken.contains ·)).getD base

/-- The alias that a new path gets. -/
def freshAlias (imports : Imports) (path : String) : String :=
  firstFree (suggestedName path) imports.taken

/-- The imports, with an alias for the path unless it is the file's own. -/
def add (imports : Imports) (path : String) : Imports :=
  if path = imports.ownPath || (imports.aliasOf? path).isSome then imports
  else { imports with entries := imports.entries ++ [⟨path, imports.freshAlias path⟩] }

/-- The imports, with an alias for each of the paths, chosen in their order. -/
def addAll (imports : Imports) (paths : List String) : Imports := paths.foldl add imports

/-- How an identifier is written: after the alias of its package, or bare where its package has
none, as is the case of the file's own. -/
def spell (imports : Imports) (ident : Ident) : String :=
  match imports.aliasOf? ident.importPath with
  | some a => a ++ "." ++ ident.name
  | none => ident.name

/-- Mentions an identifier: how it is written, and the imports after that. -/
def qualify (imports : Imports) (ident : Ident) : String × Imports :=
  let imports := imports.add ident.importPath
  (imports.spell ident, imports)

/-- The imports in the order of their paths. -/
def sorted (imports : Imports) : List Import := imports.entries.foldr Import.insertSorted []

end Imports

end GoStubs.Go
