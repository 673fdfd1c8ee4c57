import GoStubs.Go.SourceFile
import GoStubs.Plugin.OutputPath
import GoStubs.Proto.Exchange
import GoStubs.Rpc.Resolve
import GoStubs.Stub.Text
/-!
# Answering a request

A request names files to generate code for. Each of them is looked up, resolved and turned into
one Go file with the stubs of its services; the first error stops the run, and then no file is
generated at all. The response carries the files or the message of the error.

* `generate`: the files of a request, or an error.
* `respond`: the response to a request, and the log.
-/

namespace GoStubs.Plugin

open GoStubs.Rpc

/-! ## Packages -/

/-- The Go package of a file: that of its mapping, or else the one that it names itself. -/
def goPackageOf? (config : Config) (file : Proto.File) : Option Go.Package :=
  match config.mappings.find? file.name with
  | some mapped => Go.Package.parse? mapped
  | none => file.goPackage?.bind Go.Package.parse?

/-- The Go packages of those files that have one. -/
def packagesOf (config : Config) (files : List Proto.File) : PackageTable :=
  Table.ofList <| files.filterMap fun f => (goPackageOf? config f).map fun p => (f.name, p)

/-! ## Files -/

/-- Adds the stub of a service to a file. -/
def addService (file : Go.SourceFile) (service : Service) : Logged Go.SourceFile := do
  Logged.report (.generatingService service.fullName service.methods.length)
  match Stub.generate? file.imports service with
  | some (code, imports) => return { file with imports }.push code
  | none => Logged.ofExcept (.error .unwritable)

/-- The Go file with the stubs of a file's services. -/
def generateFile (config : Config) (file : File) : Logged Go.SourceFile := do
  let name ← Logged.ofExcept (outputPath config file)
  Logged.report (.generatingFile file.protoPath name file.services.length)
  file.services.foldlM addService (.empty name file.protoPath file.package)

/-- The description of a file that a request names. -/
def findFile (files : List Proto.File) (name : String) : Except Error Proto.File :=
  match files.find? (·.name = name) with
  | some file => .ok file
  | none => .error (.undescribedFile name)

/-- What the names in the files of a request refer to. -/
def scopeOf (config : Config) (files : List Proto.File) : Scope :=
  ⟨.ofFiles files, packagesOf config files⟩

/-- The output file for a file that a request names. -/
def generateNamed (config : Config) (files : List Proto.File) (scope : Scope) (name : String) :
    Logged Proto.OutputFile := do
  let proto ← Logged.ofExcept (findFile files name)
  let file ← Logged.ofExcept (File.ofProto scope proto)
  let source ← generateFile config file
  return { name := source.name, content := source.content }

/-! ## Requests -/

/-- The output files of a request, in the order in which it names their sources. -/
def generate (request : Proto.Request) : Logged (List Proto.OutputFile) := do
  let config ← Config.parse request.parameter
  let scope := scopeOf config request.files
  Logged.report (.indexed request.files.length scope.messages.size)
  request.filesToGenerate.mapM (generateNamed config request.files scope)

/-- The feature mask of a plugin that accepts optional fields in files of the third syntax
version. -/
def optionalFieldsFeature : Nat := 1

/-- The response to a request, and what the run reports. -/
def respond (request : Proto.Request) : List Event × Proto.Response :=
  let run := generate request
  match run.result with
  | .ok files => (run.events, ⟨none, optionalFieldsFeature, files⟩)
  | .error e => (run.events ++ [.failed e], ⟨some e.message, optionalFieldsFeature, []⟩)

end GoStubs.Plugin
