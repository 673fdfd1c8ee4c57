import GoStubs.Go.Imports
import GoStubs.Text.Split
/-!
# A generated Go file

A file is put together from its package, the identifiers that it mentions and the declarations of
its body. The content is written once, at the end, when all imports are known.
-/

namespace GoStubs.Go

/-- A Go file in the making. -/
structure SourceFile where
  name : String
  /-- The path of the file that it is generated from. -/
  source : String
  /-- The name of its package clause. -/
  packageName : String
  imports : Imports
  body : String
  deriving DecidableEq, Repr

namespace SourceFile

/-- The file without declarations. -/
def empty (name source : String) (package : Package) : SourceFile :=
  ⟨name, source, package.name, .ofPackage package, ""⟩

/-- Mentions an identifier: how it is written, and the file after that. -/
def qualify (file : SourceFile) (ident : Ident) : String × SourceFile :=
  let (text, imports) := file.imports.qualify ident
  (text, { file with imports })

/-- The file with a text added at the end of its body. -/
def push (file : SourceFile) (code : String) : SourceFile := { file with body := file.body ++ code }

/-- The comments at the top and the package clause. -/
def header (file : SourceFile) : String :=
  "// Code generated by protoc-gen-go-ttrpc. DO NOT EDIT.\n" ++
    "// source: " ++ file.source ++ "\n" ++
    "package " ++ file.packageName ++ "\n"

/-- A line of the import block. -/
def importLine (i : Import) : String := "\t" ++ i.name ++ " \"" ++ i.path ++ "\"\n"

/-- The import block, empty for a file without imports. -/
def importBlock (imports : Imports) : String :=
  if imports.isEmpty then ""
  else "\nimport (\n" ++ String.join (imports.sorted.map importLine) ++ ")\n"

/-- The declarations, after an empty line and with one newline at the end; a body of newlines
alone is left out. -/
def bodyBlock (body : String) : String :=
  match Text.trimEnd (· = '\n') body.toList with
  | [] => ""
  | cs => "\n" ++ String.ofList cs ++ "\n"

/-- The text of the file. -/
def content (file : SourceFile) : String :=
  file.header ++ importBlock file.imports ++ bodyBlock file.body

end SourceFile

end GoStubs.Go
