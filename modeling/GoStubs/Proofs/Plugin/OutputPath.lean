import GoStubs.Plugin.OutputPath
import GoStubs.Proofs.Failure
/-!
# Where output goes

A file has an output path, unless the path of a module is to be taken off a path that does not lie
under this module.

* `Places`: the output path of a file.
* `outputPath_eq_ok_iff`, `outputPath_eq_error_iff`: both outcomes of computing it.
-/

namespace GoStubs.Text

theorem map_ofList_eq_some_iff {rest? : Option (List Char)} {s : String} :
    rest?.map String.ofList = some s ↔ rest? = some s.toList := by
  rw [Option.map_eq_some_iff]
  constructor
  · rintro ⟨cs, hcs, rfl⟩
    rw [hcs, String.toList_ofList]
  · intro h
    exact ⟨s.toList, h, String.ofList_toList⟩

theorem dropStart?_eq_some_iff {start s rest : String} :
    dropStart? start s = some rest ↔ s = start ++ rest := by
  rw [dropStart?, map_ofList_eq_some_iff, List.isPrefixOf?_eq_some_iff_append_eq,
    ← String.toList_append, String.toList_inj, eq_comm]

theorem dropEnding?_eq_some_iff {ending s rest : String} :
    dropEnding? ending s = some rest ↔ s = rest ++ ending := by
  rw [dropEnding?, map_ofList_eq_some_iff, List.isSuffixOf?_eq_some_iff_append_eq,
    ← String.toList_append, String.toList_inj, eq_comm]

end GoStubs.Text

namespace GoStubs.Plugin

variable {config : Config} {file : Rpc.File} {module path rest stem name : String} {e : Error}

theorem underModule?_eq_some_iff :
    underModule? module path = some rest ↔ path = module ++ "/" ++ rest := by
  simp only [underModule?, Option.bind_eq_some_iff, Text.dropStart?_eq_some_iff]
  constructor
  · rintro ⟨_, rfl, rfl⟩
    rw [String.append_assoc]
  · rintro rfl
    exact ⟨_, String.append_assoc, rfl⟩

/-- The output path of a file, without its ending. -/
inductive Places (config : Config) (file : Rpc.File) : String → Prop where
  /-- Next to the proto file. -/
  | besideSource (h : config.placement = .besideSource) :
      Places config file (protoStem file.protoPath)
  /-- Under the import path. -/
  | underImportPath (h : config.placement = .underImportPath) (hmodule : config.module? = none) :
      Places config file (importStem file)
  /-- Under the import path, seen from a module. -/
  | underModule {module rest : String} (h : config.placement = .underImportPath)
      (hmodule : config.module? = some module) (hrest : importStem file = module ++ "/" ++ rest) :
      Places config file rest

theorem outputStem_eq_ok_iff : outputStem config file = .ok stem ↔ Places config file stem := by
  unfold outputStem
  constructor
  · intro h
    split at h
    case h_1 hplacement =>
      cases h
      exact .besideSource hplacement
    case h_2 hplacement hmodule =>
      cases h
      exact .underImportPath hplacement hmodule
    case h_3 hplacement hmodule =>
      split at h
      case h_1 hunder =>
        cases h
        exact .underModule hplacement hmodule (underModule?_eq_some_iff.mp hunder)
      case h_2 => cases h
  · intro h
    cases h with
    | besideSource hplacement => rw [hplacement]
    | underImportPath hplacement hmodule => rw [hplacement, hmodule]
    | underModule hplacement hmodule hrest =>
      rw [hplacement, hmodule]
      simp only [underModule?_eq_some_iff.mpr hrest]

/-- The output path of a file is its place, with the ending of generated code. -/
theorem outputPath_eq_ok_iff : outputPath config file = .ok name ↔
    ∃ stem, Places config file stem ∧ name = stem ++ outputEnding := by
  rw [outputPath, map_eq_ok_iff]
  exact exists_congr fun stem => and_congr outputStem_eq_ok_iff eq_comm

/-- Whether a path lies under the module, where there is one whose path is to be taken off. -/
def Visible (config : Config) (path : String) : Prop :=
  ∀ module, config.placement = .underImportPath → config.module? = some module →
    ∃ rest, path = module ++ "/" ++ rest

theorem exists_outputPath_eq_ok_iff :
    (∃ name, outputPath config file = .ok name) ↔ Visible config (importStem file) := by
  constructor
  · rintro ⟨name, hname⟩ module hplacement hmodule
    obtain ⟨stem, hplaces, -⟩ := outputPath_eq_ok_iff.mp hname
    cases hplaces with
    | besideSource h => simp [hplacement] at h
    | underImportPath h hnone => simp [hmodule] at hnone
    | underModule h hsome hrest =>
      obtain rfl : module = _ := Option.some.inj (hmodule.symm.trans hsome)
      exact ⟨stem, hrest⟩
  · intro h
    simp only [outputPath_eq_ok_iff]
    suffices hplaces : ∃ stem, Places config file stem by
      obtain ⟨stem, hstem⟩ := hplaces
      exact ⟨_, stem, hstem, rfl⟩
    cases hplacement : config.placement with
    | besideSource => exact ⟨_, .besideSource hplacement⟩
    | underImportPath =>
      cases hmodule : config.module? with
      | none => exact ⟨_, .underImportPath hplacement hmodule⟩
      | some module =>
        obtain ⟨rest, hrest⟩ := h module hplacement hmodule
        exact ⟨rest, .underModule hplacement hmodule hrest⟩

/-- Only a module can stand in the way of an output path. -/
theorem outputPath_eq_error_iff : outputPath config file = .error e ↔
    ∃ module, config.placement = .underImportPath ∧ config.module? = some module ∧
      (∀ rest, importStem file ≠ module ++ "/" ++ rest) ∧
      e = .outsideModule file.protoPath module := by
  rw [outputPath, map_eq_error_iff]
  simp only [ne_eq, ← underModule?_eq_some_iff, ← Option.eq_none_iff_forall_ne_some]
  unfold outputStem
  constructor
  · intro h
    split at h
    case h_1 | h_2 => cases h
    case h_3 hplacement hmodule =>
      split at h
      case h_1 => cases h
      case h_2 hunder =>
        cases h
        exact ⟨_, hplacement, hmodule, hunder, rfl⟩
  · rintro ⟨module, hplacement, hmodule, hunder, rfl⟩
    rw [hplacement, hmodule]
    simp only [hunder]

end GoStubs.Plugin
