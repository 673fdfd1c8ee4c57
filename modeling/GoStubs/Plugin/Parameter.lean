import GoStubs.Plugin.Log
import GoStubs.Table
import GoStubs.Text.Split
/-!
# The plugin's parameter

The parameter is a list of segments between commas, each a key with a value after an equals
sign. Blanks around a segment do not count, nor do empty segments. The keys `paths` and `module`
and the mappings `M<file>=<package>` have a meaning, and `annotate_code` is accepted without
one; any other segment is ignored with a warning.

* `Setting.parse`: what a segment says.
* `Config.parse`: what a parameter says.
-/

namespace GoStubs.Plugin

/-- Where output files are placed. -/
inductive Placement where
  /-- Under the import path of the file's Go package. -/
  | underImportPath
  /-- Next to the proto file. -/
  | besideSource
  deriving DecidableEq, Repr

/-- What the parameter of a plugin sets. -/
structure Config where
  /-- Where output files are placed. -/
  placement : Placement
  /-- The module whose path is taken off output paths under an import path. -/
  module? : Option String
  /-- The Go packages of files that stand in for those that the files name themselves. -/
  mappings : Table String

/-- What an empty parameter sets. -/
def Config.default : Config := ⟨.underImportPath, none, .empty⟩

/-- What a segment of the parameter says. -/
inductive Setting where
  /-- Sets where output files are placed. -/
  | placement (placement : Placement)
  /-- Sets or clears the module. -/
  | module (module? : Option String)
  /-- Sets the Go package of a file. -/
  | mapping (file package : String)
  /-- Says nothing that matters here. -/
  | annotateCode
  /-- Has no meaning. -/
  | unknown (segment : String)
  deriving DecidableEq, Repr

/-- The key and the value of a segment, the value being empty without an equals sign. -/
def splitSegment (segment : String) : String × String :=
  (Text.splitOnce '=' segment).getD (segment, "")

/-- What a segment says. A mapping needs a file and a package, and `paths` one of its two values. -/
def Setting.parse (segment : String) : Except Error Setting :=
  let (key, value) := splitSegment segment
  match Text.dropStart? "M" key with
  | some file =>
    if file = "" || value = "" then .error (.invalidSegment segment)
    else .ok (.mapping file value)
  | none =>
    if key = "paths" then
      if value = "import" then .ok (.placement .underImportPath)
      else if value = "source_relative" then .ok (.placement .besideSource)
      else .error (.invalidSegment segment)
    else if key = "module" then .ok (.module (if value = "" then none else some value))
    else if key = "annotate_code" then .ok .annotateCode
    else .ok (.unknown segment)

/-- Warns of a setting that has no meaning. -/
def Setting.report : Setting → Logged Unit
  | unknown segment => .report (.ignoredSegment segment)
  | placement _ | module _ | mapping .. | annotateCode => pure ()

namespace Config

/-- The configuration after a setting. -/
def apply (config : Config) : Setting → Config
  | .placement placement => { config with placement }
  | .module module? => { config with module? }
  | .mapping file package => { config with mappings := config.mappings.insert file package }
  | .annotateCode | .unknown _ => config

/-- The configuration after one more segment. -/
def addSegment (config : Config) (segment : String) : Logged Config := do
  let setting ← Logged.ofExcept (Setting.parse segment)
  setting.report
  return config.apply setting

/-- The segments of a parameter. -/
def segments (parameter : String) : List String :=
  ((Text.split ',' parameter).map Text.trim).filter (· ≠ "")

/-- What a parameter sets. -/
def parse (parameter : String) : Logged Config := (segments parameter).foldlM addSegment default

end Config

end GoStubs.Plugin
