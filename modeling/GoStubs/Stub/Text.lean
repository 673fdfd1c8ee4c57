import GoStubs.Go.Printer
import GoStubs.Stub.Caller
/-!
# The text of a stub

All declarations for one service, and their text in a file. The text is made in two steps: first
the identifiers that the stub writes get their aliases, in the order in which they are written;
then the stub is spelled under these aliases. Since an alias never changes, this is the text
that choosing each alias at its first mention gives.
-/

namespace GoStubs.Stub

open GoStubs.Go GoStubs.Rpc GoStubs.Writer

/-- The declarations for a service, in groups. -/
def sections (s : Service) : List Section := implementationSections s ++ callerSections s

/-- The program that writes the stub of a service. -/
def program (s : Service) : Program Phrase := printSections (sections s)

/-- The import paths that the stub of a service mentions, in the order of mention. -/
def mentionedPaths (s : Service) : List String :=
  (runtimeIdents ++ programIdents (program s)).map (·.importPath)

/-- The imports of a file after the stub of a service has been added to it. -/
def importsAfter (imports : Imports) (s : Service) : Imports := imports.addAll (mentionedPaths s)

/-- The stub of a service with its names spelled for a file. -/
def spelledProgram (imports : Imports) (s : Service) : Program String :=
  (program s).map (Phrase.spell imports)

/-- The text of the stub of a service and the imports of the file after it. -/
def generate? (imports : Imports) (s : Service) : Option (String × Imports) :=
  let imports := importsAfter imports s
  ((spelledProgram imports s).render? "\t").map fun text => (text, imports)

end GoStubs.Stub
