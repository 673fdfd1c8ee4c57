import GoStubs.Proofs.Plugin.Outcome
import GoStubs.Proofs.Plugin.Resolution
/-!
# One file at a time

A run goes through the files that the request names and hands nothing on from one file to the next:
neither imports nor text, nor which files have come before. It therefore does for all of them what
runs for each one alone would do, one after the other, up to the first that fails; and if one fails,
what has been generated before it is not part of the response.

* `Proto.Request.only`: a request for one file.
* `result_generate_only`: what a run for one file does.
* `generate_independent`: what a run does, in terms of the runs for one file each.
-/

namespace GoStubs

/-- The request for one file that is otherwise the same. -/
def Proto.Request.only (request : Request) (name : String) : Request :=
  { request with filesToGenerate := [name] }

namespace Plugin

variable {request : Proto.Request} {config : Config}

/-! ## Results -/

theorem result_generate_of_parse (h : (Config.parse request.parameter).result = .ok config) :
    (generate request).result = request.filesToGenerate.mapM fun name =>
      (generateNamed config request.files (scopeOf config request.files) name).result := by
  rw [result_generate, h, ok_bind]

/-- A run for one file has what the file's generation has, as its only file. -/
theorem result_generate_only (h : (Config.parse request.parameter).result = .ok config)
    (name : String) : (generate (request.only name)).result =
      (generateNamed config request.files (scopeOf config request.files) name).result.map
        fun file => [file] := by
  have hparse : (Config.parse (request.only name).parameter).result = .ok config := h
  rw [result_generate_of_parse hparse]
  simp only [Proto.Request.only, List.mapM_cons, List.mapM_nil]
  cases (generateNamed config request.files (scopeOf config request.files) name).result <;> rfl

theorem result_generate_only_eq_ok_iff
    (h : (Config.parse request.parameter).result = .ok config) {name : String}
    {file : Proto.OutputFile} : (generate (request.only name)).result = .ok [file] ↔
      (generateNamed config request.files (scopeOf config request.files) name).result =
        .ok file := by
  rw [result_generate_only h, map_eq_ok_iff]
  simp

theorem result_generate_only_eq_error_iff
    (h : (Config.parse request.parameter).result = .ok config) {name : String} {e : Error} :
    (generate (request.only name)).result = .error e ↔
      (generateNamed config request.files (scopeOf config request.files) name).result =
        .error e := by
  rw [result_generate_only h, map_eq_error_iff]

/-! ## Responses -/

theorem respond_of_ok {files : List Proto.OutputFile} (h : (generate request).result = .ok files) :
    (respond request).2 = ⟨none, optionalFieldsFeature, files⟩ := by
  simp only [respond, h]

theorem respond_of_error {e : Error} (h : (generate request).result = .error e) :
    (respond request).2 = ⟨some e.message, optionalFieldsFeature, []⟩ := by
  simp only [respond, h]

/-! ## Runs -/

/-- How a run for several files follows from the runs for each of them. -/
structure Independent (request : Proto.Request) : Prop where
  /-- It succeeds if all of them do. -/
  succeeds : (∃ files, (generate request).result = .ok files) ↔
    ∀ name ∈ request.filesToGenerate, ∃ file, (generate (request.only name)).result = .ok [file]
  /-- Then it has their files, one from each and in the same order. -/
  files : ∀ files, (generate request).result = .ok files ↔
    List.Forall₂ (fun name file => (generate (request.only name)).result = .ok [file])
      request.filesToGenerate files
  /-- Otherwise it fails as the first one that does. -/
  fails : ∀ e, (generate request).result = .error e ↔
    ∃ before name after, request.filesToGenerate = before ++ name :: after ∧
      (∀ x ∈ before, ∃ file, (generate (request.only x)).result = .ok [file]) ∧
      (generate (request.only name)).result = .error e
  /-- The response to a run that succeeds has all files. -/
  complete : ∀ files, (generate request).result = .ok files →
    (respond request).2 = ⟨none, optionalFieldsFeature, files⟩
  /-- The response to a run that fails says why and has no file. -/
  withdrawn : ∀ e, (generate request).result = .error e →
    (respond request).2 = ⟨some e.message, optionalFieldsFeature, []⟩

/-- **Independence.** If the parameter of a request has a meaning, then a run generates each of the
files that the request names as if it were the only one, and all of them or none. -/
theorem generate_independent (request : Proto.Request) (config : Config)
    (hparse : (Config.parse request.parameter).result = .ok config) : Independent request where
  succeeds := by
    rw [result_generate_of_parse hparse, exists_mapM_eq_ok_iff]
    simp only [result_generate_only_eq_ok_iff hparse]
  files := by
    intro files
    rw [result_generate_of_parse hparse, mapM_eq_ok_iff]
    simp only [result_generate_only_eq_ok_iff hparse]
  fails := by
    intro e
    rw [result_generate_of_parse hparse, mapM_eq_error_iff]
    simp only [result_generate_only_eq_ok_iff hparse, result_generate_only_eq_error_iff hparse]
  complete := fun _ => respond_of_ok
  withdrawn := fun _ => respond_of_error

/-- A request that names a file twice, and between them one that mentions a message which is not
declared. -/
def parcelRequest : Proto.Request where
  filesToGenerate := ["parcel.proto", "post.proto", "parcel.proto"]
  parameter? := some "paths=source_relative"
  files := [parcelProto, postProto]

theorem generate_independent_parcel :
    (Config.parse parcelRequest.parameter).result = .ok ⟨.besideSource, none, .empty⟩ ∧
      Independent parcelRequest :=
  have hparse : (Config.parse parcelRequest.parameter).result =
      .ok ⟨.besideSource, none, .empty⟩ := by rfl
  ⟨hparse, generate_independent parcelRequest _ hparse⟩

/-- The file before the one that fails is generated, but not kept. -/
example : (generate parcelRequest).result =
    .error (.undeclaredMessage "Post.Weigh" ".parcel.v1.Weight") := by rfl

end Plugin

end GoStubs
