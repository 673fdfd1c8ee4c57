import GoStubs.Plugin.Generate
import GoStubs.Proofs.Failure
import GoStubs.Proofs.Plugin.Log
import GoStubs.Proofs.Stub.Series
/-!
# The Go file of a proto file

The Go file of a proto file holds the stubs of its services, which are added one by one. Whether
there is such a file only depends on its output path.

* `withStubs`: a file with stubs added to it.
* `result_generateFile`: the file, or why there is none.
-/

namespace GoStubs.Plugin

open GoStubs.Go GoStubs.Rpc GoStubs.Stub

/-- A file with the stubs of services added to it. -/
def withStubs (file : SourceFile) (ss : List Service) : SourceFile :=
  let imports := file.imports.addAll (mentionedByAll ss)
  { file with imports, body := file.body ++ linesText imports (ss.flatMap stubLines) }

theorem result_addService (file : SourceFile) (s : Service) :
    (addService file s).result = .ok (withStubs file [s]) := by
  have hstub : withStubs file [s] = { file with
      imports := importsAfter file.imports s
      body := file.body ++ linesText (importsAfter file.imports s) (stubLines s) } := by
    simp [withStubs, mentionedByAll, importsAfter]
  rw [hstub, addService, Logged.result_bind, Logged.result_report, ok_bind, generate?_eq]
  simp only [Logged.result_pure, SourceFile.push]

/-- Stubs are added one by one, but spelled as if they had been added at once. -/
theorem withStubs_cons (file : SourceFile) (s : Service) (ss : List Service) :
    withStubs (withStubs file [s]) ss = withStubs file (s :: ss) := by
  have hs := linesText_stubLines_addAll file.imports s (mentionedByAll ss)
  have himports : file.imports.addAll (mentionedByAll (s :: ss)) =
      (importsAfter file.imports s).addAll (mentionedByAll ss) := by
    rw [mentionedByAll_cons, Imports.addAll_append, importsAfter]
  have hone : file.imports.addAll (mentionedByAll [s]) = importsAfter file.imports s := by
    simp [mentionedByAll, importsAfter]
  simp only [withStubs, himports, hone, List.flatMap_cons, List.flatMap_nil, List.append_nil,
    linesText_append, hs, String.append_assoc]

theorem result_foldlM_addService (ss : List Service) :
    ∀ file, (ss.foldlM addService file).result = .ok (withStubs file ss) := by
  induction ss with
  | nil =>
    intro file
    have hnil : withStubs file [] = file := by simp [withStubs, mentionedByAll]
    rw [hnil]
    rfl
  | cons s ss ih =>
    intro file
    rw [List.foldlM_cons, Logged.result_bind, result_addService, ok_bind, ih, withStubs_cons]

/-- A file is generated exactly if it has an output path, and it holds the stubs of the services. -/
theorem result_generateFile (config : Config) (file : File) :
    (generateFile config file).result = (outputPath config file).map fun name =>
      withStubs (.empty name file.protoPath file.package) file.services := by
  rw [generateFile, Logged.result_bind, Logged.result_ofExcept]
  cases outputPath config file with
  | error e => rfl
  | ok name =>
    rw [ok_bind, Logged.result_bind, Logged.result_report, ok_bind, result_foldlM_addService]
    rfl

theorem exists_withStubs_of_result {config : Config} {file : File} {source : SourceFile}
    (h : (generateFile config file).result = .ok source) :
    ∃ name, source = withStubs (.empty name file.protoPath file.package) file.services := by
  rw [result_generateFile] at h
  cases hname : outputPath config file with
  | error e =>
    rw [hname] at h
    cases h
  | ok name =>
    rw [hname] at h
    exact ⟨name, (Except.ok.inj h).symm⟩

end GoStubs.Plugin
