import GoStubs.Proofs.Plugin.OutputPath
import GoStubs.Proofs.Plugin.Parameter
import GoStubs.Proofs.Plugin.SourceFile
import GoStubs.Proofs.Rpc.Description
/-!
# When a run succeeds

A run goes through the files that the request names and stops at the first one for which there is no
code. Which files these are, and why, can be told from the request: a file must be described, have a
Go package, mention only messages that can be resolved, and its output must lie under the module, if
there is one. Writing the code never fails.

* `Accepted`, `Rejected`: whether there is code for a file that a request names, and why not.
* `Generates`: the output file for such a file.
* `generate_outcome`: what a run returns.
-/

namespace GoStubs.Plugin

open GoStubs.Rpc

variable {config : Config} {files : List Proto.File} {name : String} {e : Error}

/-! ## Files that a request names -/

/-- Where a file with the given package and proto path goes without regard to modules, except for
the ending. -/
def importPlace (package : Go.Package) (protoPath : String) : String :=
  package.importPath ++ "/" ++ Go.lastElement (protoStem protoPath)

/-- Whether there is code for a file that a request names, with the given description and the given
Go package. -/
structure AcceptedAs (config : Config) (files : List Proto.File) (name : String) (f : Proto.File)
    (package : Go.Package) : Prop where
  described : files.find? (·.name = name) = some f
  hasPackage : (packagesOf config files).find? name = some package
  mentions : ∀ mention ∈ f.mentions, ∃ ident,
    (scopeOf config files).Means mention.typeName ident
  visible : Visible config (importPlace package name)

/-- Whether there is code for a file that a request names. -/
def Accepted (config : Config) (files : List Proto.File) (name : String) : Prop :=
  ∃ f package, AcceptedAs config files name f package

/-- Why there is no code for a file that a request names: what is wrong first, in the order of
the constructors. -/
inductive Rejected (config : Config) (files : List Proto.File) (name : String) : Error → Prop where
  /-- No description has this name. -/
  | undescribed (h : ∀ f ∈ files, f.name ≠ name) :
      Rejected config files name (.undescribedFile name)
  /-- It has no Go package. -/
  | package {f : Proto.File} (hf : files.find? (·.name = name) = some f)
      (h : (packagesOf config files).find? name = none) :
      Rejected config files name (.noGoPackage name)
  /-- It mentions a message that cannot be resolved. -/
  | mention {f : Proto.File} {package : Go.Package} {e : Error}
      (hf : files.find? (·.name = name) = some f)
      (hpackage : (packagesOf config files).find? name = some package)
      (h : FirstUnresolved (scopeOf config files).Means (scopeOf config files).Misses f e) :
      Rejected config files name e
  /-- Its output does not lie under the module. -/
  | module {f : Proto.File} {package : Go.Package} {module : String}
      (hf : files.find? (·.name = name) = some f)
      (hpackage : (packagesOf config files).find? name = some package)
      (hmentions : ∀ mention ∈ f.mentions, ∃ ident,
        (scopeOf config files).Means mention.typeName ident)
      (hplacement : config.placement = .underImportPath) (hmodule : config.module? = some module)
      (h : ∀ rest, importPlace package name ≠ module ++ "/" ++ rest) :
      Rejected config files name (.outsideModule name module)

/-- Whether an output file is the one for a file that a request names: it has its output path and
holds the stubs of its services. -/
def Generates (config : Config) (files : List Proto.File) (name : String)
    (output : Proto.OutputFile) : Prop :=
  ∃ f, files.find? (·.name = name) = some f ∧
    ∃ file, File.ofProto (scopeOf config files) f = .ok file ∧
      ∃ path, outputPath config file = .ok path ∧
        ⟨path, (withStubs (.empty path file.protoPath file.package) file.services).content⟩ = output

/-! ## One file -/

theorem name_of_find? {f : Proto.File} (hf : files.find? (·.name = name) = some f) :
    f.name = name := by
  simpa using List.find?_some hf

theorem findFile_eq_ok_iff {f : Proto.File} :
    findFile files name = .ok f ↔ files.find? (·.name = name) = some f := by
  unfold findFile
  cases files.find? (·.name = name) <;> simp

theorem findFile_eq_error_iff :
    findFile files name = .error e ↔ (∀ f ∈ files, f.name ≠ name) ∧ e = .undescribedFile name := by
  have hnone : files.find? (·.name = name) = none ↔ ∀ f ∈ files, f.name ≠ name := by simp
  rw [← hnone, findFile]
  cases files.find? (·.name = name) <;> simp [eq_comm]

/-- The result for one file, step by step. -/
theorem result_generateNamed (scope : Scope) :
    (generateNamed config files scope name).result =
      (findFile files name >>= fun f => File.ofProto scope f >>= fun file =>
        (outputPath config file).map fun path => Proto.OutputFile.mk path
          (withStubs (.empty path file.protoPath file.package) file.services).content) := by
  simp only [generateNamed, Logged.result_bind, Logged.result_ofExcept, result_generateFile]
  congr! with f file
  cases outputPath config file <;> rfl

theorem generateNamed_eq_ok_iff {output : Proto.OutputFile} :
    (generateNamed config files (scopeOf config files) name).result = .ok output ↔
      Generates config files name output := by
  simp only [result_generateNamed, bind_eq_ok_iff, findFile_eq_ok_iff, map_eq_ok_iff, Generates]

/-- What a file's model says of its Go package and its path. -/
theorem importStem_of_ofProto {f : Proto.File} {file : File}
    (hf : files.find? (·.name = name) = some f)
    (hfile : File.ofProto (scopeOf config files) f = .ok file) :
    ∃ package, (packagesOf config files).find? name = some package ∧
      file.protoPath = name ∧ importStem file = importPlace package name := by
  obtain ⟨package, hpackage, hdescribes⟩ := File.ofProto_eq_ok_iff.mp hfile
  obtain rfl := name_of_find? hf
  refine ⟨package, hpackage, hdescribes.protoPath, ?_⟩
  rw [importStem, hdescribes.package, hdescribes.protoPath]
  rfl

/-- A described file has a model if it has a Go package and all its mentions can be resolved. -/
theorem exists_ofProto {f : Proto.File} {package : Go.Package}
    (hf : files.find? (·.name = name) = some f)
    (hpackage : (packagesOf config files).find? name = some package)
    (hmentions : ∀ mention ∈ f.mentions, ∃ ident,
      (scopeOf config files).Means mention.typeName ident) :
    ∃ file, File.ofProto (scopeOf config files) f = .ok file ∧ file.protoPath = name ∧
      importStem file = importPlace package name := by
  obtain ⟨file, hfile⟩ := File.exists_ofProto_eq_ok_iff.mpr
    ⟨⟨package, (congrArg _ (name_of_find? hf)).trans hpackage⟩, hmentions⟩
  obtain ⟨package', hpackage', hpath, hstem⟩ := importStem_of_ofProto hf hfile
  obtain rfl : package = package' := Option.some.inj (hpackage.symm.trans hpackage')
  exact ⟨file, hfile, hpath, hstem⟩

theorem exists_generates_iff :
    (∃ output, Generates config files name output) ↔ Accepted config files name := by
  constructor
  · rintro ⟨_, f, hf, file, hfile, path, hpath, rfl⟩
    obtain ⟨package, hpackage, -, hstem⟩ := importStem_of_ofProto hf hfile
    refine ⟨f, package, hf, hpackage, ?_, ?_⟩
    · exact (File.exists_ofProto_eq_ok_iff.mp ⟨file, hfile⟩).2
    · rw [← hstem]
      exact exists_outputPath_eq_ok_iff.mp ⟨path, hpath⟩
  · rintro ⟨f, package, hf, hpackage, hmentions, hvisible⟩
    obtain ⟨file, hfile, -, hstem⟩ := exists_ofProto hf hpackage hmentions
    obtain ⟨path, hpath⟩ := exists_outputPath_eq_ok_iff.mpr (hstem ▸ hvisible)
    exact ⟨_, f, hf, file, hfile, path, hpath, rfl⟩

theorem generateNamed_eq_error_iff :
    (generateNamed config files (scopeOf config files) name).result = .error e ↔
      Rejected config files name e := by
  simp only [result_generateNamed, bind_eq_error_iff, findFile_eq_error_iff, findFile_eq_ok_iff,
    map_eq_error_iff, outputPath_eq_error_iff]
  -- Each step of the run fails for one reason, and for that only if the steps before it do not.
  constructor
  · rintro (⟨hnone, rfl⟩ | ⟨f, hf, herror | ⟨file, hfile, module, hplacement, hmodule, hrest, rfl⟩⟩)
    · exact .undescribed hnone
    · obtain rfl := name_of_find? hf
      rcases File.ofProto_eq_error_iff.mp herror with ⟨hpackage, rfl⟩ | ⟨hpackage, hfirst⟩
      · exact .package hf hpackage
      · obtain ⟨package, hpackage⟩ := Option.isSome_iff_exists.mp hpackage
        exact .mention hf hpackage hfirst
    · obtain ⟨package, hpackage, hpath, hstem⟩ := importStem_of_ofProto hf hfile
      have hmentions := (File.exists_ofProto_eq_ok_iff.mp ⟨file, hfile⟩).2
      rw [hpath]
      exact .module hf hpackage hmentions hplacement hmodule (hstem ▸ hrest)
  · intro h
    cases h with
    | undescribed hnone => exact Or.inl ⟨hnone, rfl⟩
    | package hf hpackage =>
      obtain rfl := name_of_find? hf
      exact Or.inr ⟨_, hf, Or.inl (File.ofProto_eq_error_iff.mpr (Or.inl ⟨hpackage, rfl⟩))⟩
    | mention hf hpackage hfirst =>
      obtain rfl := name_of_find? hf
      have hsome := Option.isSome_of_eq_some hpackage
      exact Or.inr ⟨_, hf, Or.inl (File.ofProto_eq_error_iff.mpr (Or.inr ⟨hsome, hfirst⟩))⟩
    | module hf hpackage hmentions hplacement hmodule hrest =>
      obtain ⟨file, hfile, hpath, hstem⟩ := exists_ofProto hf hpackage hmentions
      refine Or.inr ⟨_, hf, Or.inr ⟨file, hfile, _, hplacement, hmodule, hstem ▸ hrest, ?_⟩⟩
      rw [hpath]

theorem not_rejected_unwritable : ¬ Rejected config files name .unwritable := by
  intro h
  cases h with
  | mention _ _ hfirst =>
    obtain ⟨_, mention, _, -, -, hmisses⟩ := hfirst
    cases hmisses

/-! ## All files -/

theorem result_generate (request : Proto.Request) : (generate request).result =
    (Config.parse request.parameter).result >>= fun config =>
      request.filesToGenerate.mapM fun name =>
        (generateNamed config request.files (scopeOf config request.files) name).result := by
  simp only [generate, Logged.result_bind, Logged.result_report, ok_bind, Logged.result_mapM]

/-- What a run returns for a request: when it succeeds, with which output files, and why it
fails. -/
structure Outcome (request : Proto.Request) (result : Except Error (List Proto.OutputFile)) :
    Prop where
  /-- It succeeds if the parameter has a meaning and there is code for all files that the request
  names. -/
  succeeds : (∃ outputs, result = .ok outputs) ↔
    ∃ config, (Config.parse request.parameter).result = .ok config ∧
      ∀ name ∈ request.filesToGenerate, Accepted config request.files name
  /-- Then there is one output file for each of them, in their order. -/
  outputs : ∀ outputs, result = .ok outputs ↔
    ∃ config, (Config.parse request.parameter).result = .ok config ∧
      List.Forall₂ (Generates config request.files) request.filesToGenerate outputs
  /-- Otherwise it fails because of the parameter, or else of the first file without code. -/
  fails : ∀ e, result = .error e ↔ (Config.parse request.parameter).result = .error e ∨
    ∃ config, (Config.parse request.parameter).result = .ok config ∧
      ∃ before name after, request.filesToGenerate = before ++ name :: after ∧
        (∀ x ∈ before, Accepted config request.files x) ∧ Rejected config request.files name e
  /-- It never fails because of the writing. -/
  written : result ≠ .error .unwritable

/-- **Outcomes.** For every request, a run succeeds exactly if the parameter has a meaning and there
is code for each file that the request names, and otherwise has the error of the parameter or of the
first such file without code. -/
theorem generate_outcome (request : Proto.Request) :
    Outcome request (generate request).result := by
  have houtputs : ∀ outputs, (generate request).result = .ok outputs ↔
      ∃ config, (Config.parse request.parameter).result = .ok config ∧
        List.Forall₂ (Generates config request.files) request.filesToGenerate outputs := by
    simp only [result_generate, bind_eq_ok_iff, mapM_eq_ok_iff, generateNamed_eq_ok_iff,
      implies_true]
  have hfails : ∀ e, (generate request).result = .error e ↔
      (Config.parse request.parameter).result = .error e ∨
        ∃ config, (Config.parse request.parameter).result = .ok config ∧
          ∃ before name after, request.filesToGenerate = before ++ name :: after ∧
            (∀ x ∈ before, Accepted config request.files x) ∧
            Rejected config request.files name e := by
    simp only [result_generate, bind_eq_error_iff, mapM_eq_error_iff, generateNamed_eq_error_iff,
      generateNamed_eq_ok_iff, exists_generates_iff, implies_true]
  refine ⟨?_, houtputs, hfails, ?_⟩
  · simp only [result_generate, bind_eq_ok_iff]
    rw [exists_comm]
    refine exists_congr fun config => ?_
    rw [exists_and_left, exists_mapM_eq_ok_iff]
    simp only [generateNamed_eq_ok_iff, exists_generates_iff]
  · rw [ne_eq, hfails, not_or]
    constructor
    · intro hparse
      obtain ⟨_, segment, _, -, -, hsegment⟩ := Config.parse_eq_error_iff.mp hparse
      cases Setting.eq_invalidSegment_of_parse hsegment
    · rintro ⟨config, -, _, name, _, -, -, hrejected⟩
      exact not_rejected_unwritable hrejected

end GoStubs.Plugin
