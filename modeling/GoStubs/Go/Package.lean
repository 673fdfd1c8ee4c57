import GoStubs.Go.Identifier
import GoStubs.Go.LastElement
import GoStubs.Text.Split
/-!
# Go packages

Where generated code lives: a package has an import path and a name. Both the `go_package`
option of a file and a mapping in the plugin's parameter write it as `path` or as `path;name`;
without a name, the last element of the path provides one.
-/

namespace GoStubs.Go

/-- A Go package. -/
structure Package where
  /-- What an import of the package writes. -/
  importPath : String
  /-- The name of its package clause. -/
  name : String
  deriving DecidableEq, Repr, Inhabited

/-- A Go identifier together with the package that declares it. -/
structure Ident where
  importPath : String
  name : String
  deriving DecidableEq, Repr, Inhabited

/-- The package name that an import path suggests. -/
def suggestedName (importPath : String) : String := identifierOf (lastElement importPath)

/-- The package with the given path and name, an empty name standing for the suggested one.
There is no package without a path. -/
def Package.ofParts? (importPath name : String) : Option Package :=
  if importPath = "" then none
  else some ⟨importPath, if name = "" then suggestedName importPath else name⟩

/-- Reads `path` or `path;name`. -/
def Package.parse? (value : String) : Option Package :=
  match Text.splitOnce ';' value with
  | some (importPath, name) => ofParts? importPath name
  | none => ofParts? value ""

end GoStubs.Go
