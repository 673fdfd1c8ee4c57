import GoStubs.Plugin.Parameter
import GoStubs.Rpc.Model
/-!
# Output paths

Where the code of a file goes: under the import path of its Go package, of which the path of a
module can be taken off, or next to the proto file.
-/

namespace GoStubs.Plugin

/-- What output paths have in place of the ending of a proto file. -/
def outputEnding : String := "_ttrpc.pb.go"

/-- The path of a proto file without its ending. -/
def protoStem (path : String) : String := (Text.dropEnding? ".proto" path).getD path

/-- The output path of a file under its import path, without its ending. -/
def importStem (file : Rpc.File) : String :=
  file.package.importPath ++ "/" ++ Go.lastElement (protoStem file.protoPath)

/-- What of a path lies under a module, if it does lie there. -/
def underModule? (module path : String) : Option String :=
  (Text.dropStart? module path).bind (Text.dropStart? "/")

/-- The output path of a file, without its ending. -/
def outputStem (config : Config) (file : Rpc.File) : Except Error String :=
  match config.placement, config.module? with
  | .besideSource, _ => .ok (protoStem file.protoPath)
  | .underImportPath, none => .ok (importStem file)
  | .underImportPath, some module =>
    match underModule? module (importStem file) with
    | some stem => .ok stem
    | none => .error (.outsideModule file.protoPath module)

/-- The output path of a file. -/
def outputPath (config : Config) (file : Rpc.File) : Except Error String :=
  (outputStem config file).map (· ++ outputEnding)

end GoStubs.Plugin
