import GoStubs.Proofs.Go.Elements
import GoStubs.Proofs.Plugin.OutputPath
import GoStubs.Proofs.Text.Split
/-!
# Output paths and modules

Taking the path of a module off an output path is cutting it at a slash: what is left is what stands
behind the module and one slash, and where this is not how the path starts, there is nothing left to
be returned. The cut is made before the ending of generated code is put on, which makes no
difference, since there is no slash in this ending.

* `IsStem`: the path of a proto file without its ending.
* `nameUnder_iff`: what is left under a module.
* `Placed`: the output paths of a file.
* `outputPath_placed`: these are the ones that it has.
-/

namespace GoStubs.Plugin

/-! ## Stems -/

/-- Whether a text is the path of a proto file without its ending, or all of a path that has another
ending. -/
inductive IsStem (path : String) : String → Prop where
  | proto {stem : String} (h : path = stem ++ ".proto") : IsStem path stem
  | other (h : ∀ stem, path ≠ stem ++ ".proto") : IsStem path path

theorem isStem_iff {path stem : String} : IsStem path stem ↔ protoStem path = stem := by
  rw [protoStem]
  cases hstem : Text.dropEnding? ".proto" path with
  | none =>
    have hother : ∀ stem, path ≠ stem ++ ".proto" := fun stem h => by
      rw [Text.dropEnding?_eq_some_iff.mpr h] at hstem
      cases hstem
    constructor
    · rintro (h | -)
      · exact absurd h (hother _)
      · rfl
    · rintro rfl
      exact .other hother
  | some rest =>
    have hproto := Text.dropEnding?_eq_some_iff.mp hstem
    constructor
    · rintro (h | h)
      · rw [Text.dropEnding?_eq_some_iff.mpr h] at hstem
        exact (Option.some.inj hstem).symm
      · exact absurd hproto (h _)
    · rintro rfl
      exact .proto hproto

theorem isStem_protoStem (path : String) : IsStem path (protoStem path) := isStem_iff.mpr rfl

/-! ## Under import paths -/

section

variable {config config' : Config} {file file' : Rpc.File} {module name stem : String} {e : Error}

/-- The configuration that takes no module off. -/
def Config.withoutModule (config : Config) : Config := { config with module? := none }

/-- The name of a file that no module is taken off. -/
theorem name_withoutModule_iff (h : config.placement = .underImportPath) :
    outputPath config.withoutModule file = .ok name ↔ name = importStem file ++ outputEnding := by
  have hplacement : config.withoutModule.placement = .underImportPath := h
  rw [outputPath_eq_ok_iff]
  constructor
  · rintro ⟨stem, hplaces, rfl⟩
    cases hplaces with
    | besideSource hbeside =>
      rw [hplacement] at hbeside
      cases hbeside
    | underImportPath => rfl
    | underModule _ hmodule => cases hmodule
  · rintro rfl
    exact ⟨_, .underImportPath hplacement rfl, rfl⟩

/-- What is left under a module stands behind the module and a slash. -/
theorem nameUnder_iff (h : config.placement = .underImportPath)
    (hmodule : config.module? = some module) : outputPath config file = .ok name ↔
      outputPath config.withoutModule file = .ok (module ++ "/" ++ name) := by
  have hslash : "/" = String.singleton '/' := rfl
  have hending : '/' ∉ outputEnding.toList := by decide
  rw [name_withoutModule_iff h, @eq_comm _ (module ++ "/" ++ name), hslash,
    Text.append_eq_cut_iff hending, ← hslash, outputPath_eq_ok_iff]
  refine exists_congr fun stem => and_congr_left fun _ => ?_
  constructor
  · intro hplaces
    cases hplaces with
    | besideSource hbeside => simp [h] at hbeside
    | underImportPath _ hnone => simp [hmodule] at hnone
    | underModule _ hsome hrest =>
      obtain rfl : module = _ := Option.some.inj (hmodule.symm.trans hsome)
      exact hrest
  · exact .underModule h hmodule

/-- There is an error exactly if nothing is left under the module. -/
theorem outsideModule_iff (h : config.placement = .underImportPath)
    (hmodule : config.module? = some module) :
    outputPath config file = .error e ↔
      (∀ name, outputPath config.withoutModule file ≠ .ok (module ++ "/" ++ name)) ∧
        e = .outsideModule file.protoPath module := by
  have hnone : (∀ name, outputPath config.withoutModule file ≠ .ok (module ++ "/" ++ name)) ↔
      ∀ rest, importStem file ≠ module ++ "/" ++ rest := by
    simp only [ne_eq, ← nameUnder_iff h hmodule, ← not_exists]
    rw [exists_outputPath_eq_ok_iff, Visible]
    simp [h, hmodule]
  rw [outputPath_eq_error_iff, hnone]
  constructor
  · rintro ⟨module', -, hmodule', hrest, he⟩
    obtain rfl : module = module' := Option.some.inj (hmodule.symm.trans hmodule')
    exact ⟨hrest, he⟩
  · intro ⟨hrest, he⟩
    exact ⟨module, h, hmodule, hrest, he⟩

/-- A module is not one of a path that goes on behind it with anything but a slash. -/
theorem outsideModule_of_prefix (h : config.placement = .underImportPath)
    (hmodule : config.module? = some module) {rest : String}
    (hname : outputPath config.withoutModule file = .ok (module ++ rest))
    (hrest : rest.toList.head? ≠ some '/') :
    outputPath config file = .error (.outsideModule file.protoPath module) := by
  refine (outsideModule_iff h hmodule).mpr ⟨fun name hunder => hrest ?_, rfl⟩
  have heq : module ++ rest = module ++ "/" ++ name := Except.ok.inj (hname.symm.trans hunder)
  rw [String.append_assoc, String.append_right_inj] at heq
  rw [heq]
  simp

/-- The last element of the name comes from the proto path. -/
theorem getLast?_split_name (h : config.placement = .underImportPath)
    (hstem : IsStem file.protoPath stem) (hslash : Go.lastElement stem ≠ "/")
    (hname : outputPath config file = .ok name) :
    (Text.split '/' name).getLast? = some (Go.lastElement stem ++ outputEnding) := by
  have hsingleton : "/" = String.singleton '/' := rfl
  have hpiece : '/' ∉ (Go.lastElement stem ++ outputEnding).toList := by
    have hending : '/' ∉ outputEnding.toList := by decide
    rw [String.toList_append, List.mem_append, not_or]
    exact ⟨Go.slash_not_mem_lastElement hslash, hending⟩
  have hwhole : (Text.split '/' (importStem file ++ outputEnding)).getLast? =
      some (Go.lastElement stem ++ outputEnding) := by
    rw [importStem, isStem_iff.mp hstem, String.append_assoc, hsingleton,
      Text.getLast?_split_append, Text.split_of_not_mem hpiece, List.getLast?_singleton]
  -- A module is cut off in front of a slash, which leaves the last element as it is.
  cases hmodule : config.module? with
  | none =>
    have hconfig : config.withoutModule = config := by
      cases config
      cases hmodule
      rfl
    rw [← hconfig] at hname
    rw [(name_withoutModule_iff h).mp hname, hwhole]
  | some module =>
    have hunder := (name_withoutModule_iff h).mp ((nameUnder_iff h hmodule).mp hname)
    rw [← hwhole, ← hunder, hsingleton, Text.getLast?_split_append]

/-! ## Next to sources -/

theorem nameBeside (h : config.placement = .besideSource) (hstem : IsStem file.protoPath stem) :
    outputPath config file = .ok (stem ++ outputEnding) := by
  rw [outputPath_eq_ok_iff, ← isStem_iff.mp hstem]
  exact ⟨_, .besideSource h, rfl⟩

/-! ## All output paths -/

/-- What can be told of the output paths of a file without computing them. -/
structure Placed (file : Rpc.File) : Prop where
  /-- Without a module there is a name under the import path. -/
  whole : ∀ config stem, config.placement = .underImportPath → config.module? = none →
    IsStem file.protoPath stem → outputPath config file =
      .ok (file.package.importPath ++ "/" ++ Go.lastElement stem ++ outputEnding)
  /-- With a module the name is what stands behind the module and a slash, -/
  under : ∀ config module name, config.placement = .underImportPath →
    config.module? = some module → (outputPath config file = .ok name ↔
      outputPath config.withoutModule file = .ok (module ++ "/" ++ name))
  /-- and there is none exactly if the whole name does not start so. -/
  outside : ∀ config module e, config.placement = .underImportPath →
    config.module? = some module → (outputPath config file = .error e ↔
      (∀ name, outputPath config.withoutModule file ≠ .ok (module ++ "/" ++ name)) ∧
        e = .outsideModule file.protoPath module)
  /-- So a module that ends inside of an element is not one of the path, nor is one that ends in a
  slash, as long as there are no two slashes. -/
  inside : ∀ config module rest, config.placement = .underImportPath →
    config.module? = some module →
    outputPath config.withoutModule file = .ok (module ++ rest) →
    rest.toList.head? ≠ some '/' →
    outputPath config file = .error (.outsideModule file.protoPath module)
  /-- The last element is that of the proto path, with another ending. -/
  last : ∀ config stem name, config.placement = .underImportPath →
    IsStem file.protoPath stem → Go.lastElement stem ≠ "/" → outputPath config file = .ok name →
    (Text.split '/' name).getLast? = some (Go.lastElement stem ++ outputEnding)
  /-- Next to the source there is always a name. -/
  beside : ∀ config stem, config.placement = .besideSource → IsStem file.protoPath stem →
    outputPath config file = .ok (stem ++ outputEnding)
  /-- It depends on nothing but the proto path, -/
  unaffected : ∀ config config' file', config.placement = .besideSource →
    config'.placement = .besideSource → file'.protoPath = file.protoPath →
    outputPath config' file' = outputPath config file
  /-- and tells proto paths apart. -/
  apart : ∀ config config' file' stem stem', config.placement = .besideSource →
    config'.placement = .besideSource → file.protoPath = stem ++ ".proto" →
    file'.protoPath = stem' ++ ".proto" → file'.protoPath ≠ file.protoPath →
    outputPath config' file' ≠ outputPath config file

/-- **Output paths.** With a module, a file has the output path that it has without the module,
after the module and a slash, and none exactly if its path does not start so. Under an import path
the last element is that of the proto path, and next to the source the output path follows from the
proto path alone. -/
theorem outputPath_placed (file : Rpc.File) : Placed file where
  whole config stem hplacement hmodule hstem := by
    rw [outputPath_eq_ok_iff, ← isStem_iff.mp hstem]
    exact ⟨_, .underImportPath hplacement hmodule, rfl⟩
  under _ _ _ := nameUnder_iff
  outside _ _ _ := outsideModule_iff
  inside _ _ _ hplacement hmodule := outsideModule_of_prefix hplacement hmodule
  last _ _ _ := getLast?_split_name
  beside _ _ := nameBeside
  unaffected config config' file' hplacement hplacement' hpath := by
    have hstem := isStem_protoStem file.protoPath
    rw [nameBeside hplacement hstem]
    exact nameBeside hplacement' (hpath ▸ hstem)
  apart config config' file' stem stem' hplacement hplacement' hpath hpath' hne := by
    rw [nameBeside hplacement (.proto hpath), nameBeside hplacement' (.proto hpath')]
    intro heq
    have hstems := (String.append_left_inj _).mp (Except.ok.inj heq)
    rw [hpath, hpath', hstems] at hne
    exact hne rfl

/-- With the slash at its end, the module would have to stand before another one. -/
example : outputPath ⟨.underImportPath, some "example.com/gen/", .empty⟩
    ⟨"echo.proto", ⟨"example.com/gen/echo", "echo"⟩, []⟩ =
      .error (.outsideModule "echo.proto" "example.com/gen/") := by rfl

end

end GoStubs.Plugin
