import GoStubs.Error
import GoStubs.Rpc.MessageTable
import GoStubs.Rpc.Model
/-!
# From a description to a model

A file's description becomes the model that code is generated from. The messages that its
methods mention are looked up and get the import path of the file that declares them. The first
message, in the order of services, methods, request and response, that cannot be resolved stops
this.

* `File.ofProto`: the model of a file.
-/

namespace GoStubs.Rpc

/-- The Go packages of files, under the names of the files. -/
abbrev PackageTable := Table Go.Package

/-- What the names in a file's description refer to. -/
structure Scope where
  /-- The messages that methods can mention. -/
  messages : MessageTable
  /-- The Go packages of the files that declare them. -/
  packages : PackageTable

namespace Scope

/-- The Go package of a file. -/
def packageOf (scope : Scope) (file : String) : Except Error Go.Package :=
  match scope.packages.find? file with
  | some package => .ok package
  | none => .error (.noGoPackage file)

/-- The Go type of a message that a method mentions. -/
def identOf (scope : Scope) (method typeName : String) : Except Error Go.Ident := do
  match scope.messages.find? typeName with
  | some message =>
    let package ← scope.packageOf message.file
    return ⟨package.importPath, message.goName⟩
  | none => .error (.undeclaredMessage method typeName)

end Scope

/-- The model of a method of the named service. -/
def Method.ofProto (scope : Scope) (service : String) (m : Proto.Method) :
    Except Error Method := do
  let method := service ++ "." ++ m.name
  let input ← scope.identOf method m.input
  let output ← scope.identOf method m.output
  return {
    name := m.name
    goName := Go.exportedName m.name
    input
    output
    clientStreaming := m.clientStreaming
    serverStreaming := m.serverStreaming }

/-- The name of a service with its package. -/
def serviceFullName (package name : String) : String :=
  if package = "" then name else package ++ "." ++ name

/-- The model of a service of the given proto package. -/
def Service.ofProto (scope : Scope) (package : String) (s : Proto.Service) :
    Except Error Service := do
  let fullName := serviceFullName package s.name
  let methods ← s.methods.mapM (Method.ofProto scope fullName)
  return { fullName, goName := Go.exportedName s.name, methods }

/-- The model of a file. -/
def File.ofProto (scope : Scope) (f : Proto.File) : Except Error File := do
  let package ← scope.packageOf f.name
  let services ← f.services.mapM (Service.ofProto scope f.package)
  return { protoPath := f.name, package, services }

end GoStubs.Rpc
