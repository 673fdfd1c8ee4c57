import GoStubs.Proto.File
/-!
# Requests and responses

What a code generator asks of a plugin, and what the plugin answers.
-/

namespace GoStubs.Proto

/-- What a plugin is asked to do. -/
structure Request where
  /-- The paths of the files to generate code for. -/
  filesToGenerate : List String
  parameter? : Option String
  /-- The files to generate code for and all files that they import. -/
  files : List File
  deriving Repr

/-- The parameter of the plugin, empty if it is unset. -/
def Request.parameter (r : Request) : String := r.parameter?.getD ""

/-- A file that a plugin generates. -/
structure OutputFile where
  name : String
  content : String
  deriving DecidableEq, Repr

/-- What a plugin answers. -/
structure Response where
  /-- Why nothing is generated, if that is so. -/
  error? : Option String
  /-- The set of optional features that the plugin supports, as a bit mask. -/
  supportedFeatures : Nat
  files : List OutputFile
  deriving DecidableEq, Repr

end GoStubs.Proto
