import GoStubs.Proofs.Plugin.Relevance
/-!
# Two ways to a Go package

A file names its Go package in an option, or the parameter maps the file to it. Both give the same
text to the same reader of packages, the mapping once it has come through the commas, the trimming
and the first equals sign of the parameter. So they can stand in for one another, and where there
are both, the mapping counts.

* `mappingSegment`: the segment that maps a file to a package, and `Mappable`, when there is one.
* `Config.Maps`: whether a parameter maps a file already.
* `generate_mapping`: a mapping in place of an option.
-/

namespace GoStubs.Plugin

open GoStubs.Rpc

/-! ## Segments of mappings -/

/-- The segment of a parameter that maps a file to a package. -/
def mappingSegment (file package : String) : String := "M" ++ file ++ "=" ++ package

/-- Whether a file and a package can stand in such a segment. -/
structure Mappable (file package : String) : Prop where
  file_ne : file ≠ ""
  file_comma : ',' ∉ file.toList
  /-- The first equals sign of a segment ends the name of the file. -/
  file_equals : '=' ∉ file.toList
  package_ne : package ≠ ""
  package_comma : ',' ∉ package.toList
  /-- Blanks at the end of a segment do not count. -/
  package_end : ∀ c ∈ package.toList.getLast?, Unicode.isBlank c = false

variable {file package parameter : String}

theorem toList_mappingSegment (file package : String) :
    (mappingSegment file package).toList = 'M' :: file.toList ++ ['='] ++ package.toList := by
  simp [mappingSegment]

theorem Mappable.isSegment (h : Mappable file package) :
    IsSegment (mappingSegment file package) := by
  have hchars := toList_mappingSegment file package
  constructor
  case ne_empty =>
    intro hempty
    rw [hempty] at hchars
    cases hchars
  case comma =>
    rw [hchars]
    simp [h.file_comma, h.package_comma]
  case first =>
    intro c hc
    rw [hchars] at hc
    rw [← Option.some.inj hc]
    decide
  case last =>
    intro c hc
    have hne : package.toList ≠ [] := fun hnil => h.package_ne (String.toList_inj.mp hnil)
    rw [hchars, List.getLast?_append_of_ne_nil _ hne] at hc
    exact h.package_end c hc

theorem Mappable.parse (h : Mappable file package) :
    Setting.parse (mappingSegment file package) = .ok (.mapping file package) := by
  have hkey : '=' ∉ ("M" ++ file).toList := by simp [h.file_equals]
  have hsplit : splitSegment (mappingSegment file package) = ("M" ++ file, package) := by
    have hequals : "=" = String.singleton '=' := rfl
    rw [splitSegment, mappingSegment, hequals, Text.splitOnce_append hkey, Option.getD_some]
  have hfile : Text.dropStart? "M" ("M" ++ file) = some file :=
    Text.dropStart?_eq_some_iff.mpr rfl
  simp only [Setting.parse, hsplit, hfile]
  exact if_neg (by simp [h.file_ne, h.package_ne])

/-- A mapping at the end of a parameter is the last thing that it sets. -/
theorem Mappable.parse_parameter (h : Mappable file package) (parameter : String) :
    Config.parse (parameter ++ "," ++ mappingSegment file package) =
      (Config.parse parameter >>= fun config => pure (config.apply (.mapping file package))) := by
  have hone : ∀ config : Config, [mappingSegment file package].foldlM Config.addSegment config =
      pure (config.apply (.mapping file package)) := by
    intro config
    rw [List.foldlM_cons, Config.addSegment, h.parse]
    rfl
  rw [Config.parse_append, Config.segments_of_isSegment h.isSegment]
  simp only [hone]

/-! ## Mapped files -/

/-- Whether a parameter maps a file to a package. -/
def Config.Maps (parameter file : String) : Prop :=
  ∃ segment ∈ segments parameter, ∃ package, Setting.parse segment = .ok (.mapping file package)

theorem find?_mappings_apply {config : Config} {setting : Setting}
    (h : ∀ package, setting ≠ .mapping file package) :
    (config.apply setting).mappings.find? file = config.mappings.find? file := by
  cases setting with
  | mapping other package =>
    have hne : file ≠ other := fun heq => h package (heq ▸ rfl)
    rw [Config.apply, Table.find?_insert, if_neg hne]
  | _ => rfl

theorem find?_mappings_foldl_apply {settings : List Setting}
    (h : ∀ setting ∈ settings, ∀ package, setting ≠ .mapping file package) (config : Config) :
    (settings.foldl Config.apply config).mappings.find? file = config.mappings.find? file := by
  induction settings generalizing config with
  | nil => rfl
  | cons setting settings ih =>
    rw [List.foldl_cons, ih fun x hx => h x (List.mem_cons_of_mem _ hx),
      find?_mappings_apply (h setting List.mem_cons_self)]

/-- What a parameter does not map has no mapping in what it sets. -/
theorem find?_mappings_of_not_maps {config : Config} (h : ¬ Config.Maps parameter file)
    (hconfig : (Config.parse parameter).result = .ok config) :
    config.mappings.find? file = none := by
  rw [Config.result_parse, map_eq_ok_iff] at hconfig
  obtain ⟨settings, hsettings, rfl⟩ := hconfig
  refine (find?_mappings_foldl_apply (fun setting hsetting package heq => h ?_) _).trans rfl
  obtain ⟨segment, hsegment, hparse⟩ :=
    exists_of_mem_forall₂ (mapM_eq_ok_iff.mp hsettings) hsetting
  exact ⟨segment, hsegment, package, heq ▸ hparse⟩

/-! ## Options and mappings -/

/-- The description of a file without its options. -/
def withoutOptions (f : Proto.File) : Proto.File := { f with options? := none }

/-- A look-up finds a description with any options. -/
theorem findFile_withoutOptions (files : List Proto.File) (name : String) :
    findFile (files.map withoutOptions) name = (findFile files name).map withoutOptions := by
  have hfind : (files.map withoutOptions).find? (·.name = name) =
      (files.find? (·.name = name)).map withoutOptions := List.find?_map ..
  rw [findFile, findFile, hfind]
  cases files.find? (·.name = name) <;> rfl

/-- The code for a file does not depend on options, but for the packages that they name. -/
theorem generateNamed_withoutOptions (config : Config) (files : List Proto.File) (scope : Scope)
    (name : String) :
    generateNamed config (files.map withoutOptions) scope name =
      generateNamed config files scope name := by
  simp only [generateNamed, findFile_withoutOptions]
  cases findFile files name <;> rfl

/-- The description of a file that names a Go package. -/
def withGoPackage (f : Proto.File) (package : String) : Proto.File :=
  { f with options? := some ⟨some package⟩ }

section

variable {config : Config} {before after : List Proto.File} {f : Proto.File}

/-- A file that the configuration maps to a package has the one that it would name. -/
theorem packagesOf_mapping (hnames : ((before ++ f :: after).map (·.name)).Nodup)
    (hunmapped : config.mappings.find? f.name = none) :
    packagesOf (config.apply (.mapping f.name package)) (before ++ f :: after) =
      packagesOf config (before ++ withGoPackage f package :: after) := by
  have hmapped : ∀ g : Proto.File, (config.apply (.mapping f.name package)).mappings.find? g.name =
      if g.name = f.name then some package else config.mappings.find? g.name :=
    fun g => Table.find?_insert ..
  have hf : goPackageOf? (config.apply (.mapping f.name package)) f =
      goPackageOf? config (withGoPackage f package) := by
    have hname : (withGoPackage f package).name = f.name := rfl
    simp only [goPackageOf?, hmapped, hname, hunmapped, if_true]
    rfl
  have hother : ∀ g ∈ before ++ after,
      goPackageOf? (config.apply (.mapping f.name package)) g = goPackageOf? config g := by
    intro g hg
    rw [List.map_append, List.map_cons, List.nodup_middle, ← List.map_append] at hnames
    have hne : g.name ≠ f.name := fun heq =>
      (List.nodup_cons.mp hnames).1 (heq ▸ List.mem_map_of_mem hg)
    simp only [goPackageOf?, hmapped, if_neg hne]
  have hothers : ∀ gs ⊆ before ++ after,
      gs.filterMap (fun g => (goPackageOf? (config.apply (.mapping f.name package)) g).map
          fun p => (g.name, p)) =
        gs.filterMap fun g => (goPackageOf? config g).map fun p => (g.name, p) :=
    fun gs hgs => List.filterMap_congr fun g hg => by rw [hother g (hgs hg)]
  have hname : (withGoPackage f package).name = f.name := rfl
  simp only [packagesOf, List.filterMap_append, List.filterMap_cons, hf, hname,
    hothers before (List.subset_append_left _ _), hothers after (List.subset_append_right _ _)]

/-- A run with the mapping and a run with the option know the same names. -/
theorem scopeOf_mapping (hnames : ((before ++ f :: after).map (·.name)).Nodup)
    (hunmapped : config.mappings.find? f.name = none) :
    scopeOf (config.apply (.mapping f.name package)) (before ++ f :: after) =
      scopeOf config (before ++ withGoPackage f package :: after) := by
  have hmessages : MessageTable.ofFiles (before ++ f :: after) =
      MessageTable.ofFiles (before ++ withGoPackage f package :: after) := by
    simp only [MessageTable.ofFiles, List.flatMap_append, List.flatMap_cons]
    rfl
  rw [scopeOf, scopeOf, packagesOf_mapping hnames hunmapped, hmessages]

end

/-- **Mappings and options.** In a request whose files have names of their own, take a file that the
parameter does not map to a package. It does not matter whether the file names a Go package or the
parameter maps it to that package at its end, whatever package the file names then or none: the run
returns the same files or the same error, and reports the same. -/
theorem generate_mapping (request : Proto.Request) (before after : List Proto.File)
    (f : Proto.File) (package : String) (hfiles : request.files = before ++ f :: after)
    (hnames : (request.files.map (·.name)).Nodup) (hmappable : Mappable f.name package)
    (hunmapped : ¬ Config.Maps request.parameter f.name) :
    generate { request with files := before ++ withGoPackage f package :: after } =
      generate { request with
        parameter? := some (request.parameter ++ "," ++ mappingSegment f.name package) } := by
  have hstripped : (before ++ withGoPackage f package :: after).map withoutOptions =
      request.files.map withoutOptions := by
    rw [hfiles, List.map_append, List.map_append]
    rfl
  have hcount : (before ++ withGoPackage f package :: after).length = request.files.length := by
    simpa using congrArg List.length hstripped
  have hparameter : Proto.Request.parameter { request with
      parameter? := some (request.parameter ++ "," ++ mappingSegment f.name package) } =
        request.parameter ++ "," ++ mappingSegment f.name package := rfl
  rw [generate, generate, hparameter, hmappable.parse_parameter, bind_assoc]
  simp only [pure_bind]
  refine Logged.bind_congr_of_result fun config hconfig => ?_
  have hscope : scopeOf (config.apply (.mapping f.name package)) request.files =
      scopeOf config (before ++ withGoPackage f package :: after) := by
    rw [hfiles] at hnames ⊢
    exact scopeOf_mapping hnames (find?_mappings_of_not_maps hunmapped hconfig)
  have hnamed : ∀ scope name,
      generateNamed config (before ++ withGoPackage f package :: after) scope name =
        generateNamed (config.apply (.mapping f.name package)) request.files scope name := by
    intro scope name
    rw [← generateNamed_withoutOptions, hstripped, generateNamed_withoutOptions]
    rfl
  simp only [hscope, hcount, funext (hnamed _)]

/-- A request for a file whose messages are in another file, with a setting of its own. -/
def besideRequest : Proto.Request :=
  { letterRequest with parameter? := some "paths=source_relative" }

theorem not_maps_besideRequest : ¬ Config.Maps besideRequest.parameter parcelProto.name := by
  have hsegments : Config.segments besideRequest.parameter = ["paths=source_relative"] := by
    decide +kernel
  have hparse : Setting.parse "paths=source_relative" = .ok (.placement .besideSource) := by rfl
  rintro ⟨segment, hsegment, package, hmapping⟩
  rw [hsegments, List.mem_singleton] at hsegment
  rw [hsegment, hparse] at hmapping
  cases hmapping

theorem mappable_parcel : Mappable parcelProto.name "example.com/box;a=b" where
  file_ne := by decide
  file_comma := by decide
  file_equals := by decide
  package_ne := by decide
  package_comma := by decide
  package_end := by
    intro c hc
    have hlast : "example.com/box;a=b".toList.getLast? = some 'b' := by decide
    obtain rfl := Option.some.inj (hlast.symm.trans hc)
    decide

/-- The package of the mapping has a name, with an equals sign in it. -/
theorem generate_mapping_letter :
    besideRequest.files = [] ++ parcelProto :: [letterProto] ∧
      (besideRequest.files.map (·.name)).Nodup ∧
      Mappable parcelProto.name "example.com/box;a=b" ∧
      ¬ Config.Maps besideRequest.parameter parcelProto.name ∧
      generate { besideRequest with
          files := [withGoPackage parcelProto "example.com/box;a=b", letterProto] } =
        generate { besideRequest with
          parameter? := some "paths=source_relative,Mparcel.proto=example.com/box;a=b" } :=
  have hnames : (besideRequest.files.map (·.name)).Nodup := by decide
  ⟨rfl, hnames, mappable_parcel, not_maps_besideRequest,
    generate_mapping besideRequest [] [letterProto] parcelProto "example.com/box;a=b" rfl hnames
      mappable_parcel not_maps_besideRequest⟩

end GoStubs.Plugin
