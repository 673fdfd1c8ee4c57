import GoStubs.Proofs.Plugin.OutputPath
import GoStubs.Proofs.Plugin.Parameter
/-!
# Parameters put together

A parameter is read as text: it is cut at commas, trimmed, and each segment is cut at its first
equals sign. Nothing of a segment goes into the next one, and of the segments with one key the last
one decides. So a parameter can be put together from two, and means what they mean, the second one
on top of the first.

* `KeyValue`, `Means`, `Refused`: the segments by their text, and what they say.
* `Sets`: what a parameter sets, by the last value of each key.
* `Accounts`: where each segment of a parameter goes.
* `parse_composes`: all of this for two parameters with a comma between them.
-/

namespace GoStubs.Plugin

/-! ## The text of segments -/

/-- Whether a segment is a key with a value. The first equals sign ends the key, and without one the
value is empty. -/
structure KeyValue (segment key value : String) : Prop where
  key_equals : '=' ∉ key.toList
  text : segment = key ++ "=" ++ value ∨ segment = key ∧ value = ""

theorem splitSegment_eq_iff {segment key value : String} :
    splitSegment segment = (key, value) ↔ KeyValue segment key value := by
  have hequals : "=" = String.singleton '=' := rfl
  rw [splitSegment]
  constructor
  · intro h
    cases hsplit : Text.splitOnce '=' segment with
    | none =>
      rw [hsplit] at h
      obtain ⟨rfl, rfl⟩ := Prod.mk.inj h
      exact ⟨Text.splitOnce_eq_none_iff.mp hsplit, .inr ⟨rfl, rfl⟩⟩
    | some parts =>
      rw [hsplit, Option.getD_some] at h
      subst h
      obtain ⟨htext, hkey⟩ := Text.splitOnce_eq_some_iff.mp hsplit
      exact ⟨hkey, .inl htext⟩
  · intro ⟨hkey, htext⟩
    rcases htext with rfl | ⟨rfl, rfl⟩
    · rw [hequals, Text.splitOnce_append hkey, Option.getD_some]
    · rw [Text.splitOnce_eq_none_iff.mpr hkey, Option.getD_none]

/-- What a segment says that is not refused. -/
inductive Means (segment : String) : Setting → Prop where
  | mapping {file package : String} (h : KeyValue segment ("M" ++ file) package)
      (hfile : file ≠ "") (hpackage : package ≠ "") : Means segment (.mapping file package)
  | underImportPath (h : KeyValue segment "paths" "import") :
      Means segment (.placement .underImportPath)
  | besideSource (h : KeyValue segment "paths" "source_relative") :
      Means segment (.placement .besideSource)
  | module {path : String} (h : KeyValue segment "module" path) (hpath : path ≠ "") :
      Means segment (.module (some path))
  /-- Without a value the key takes the module back. -/
  | noModule (h : KeyValue segment "module" "") : Means segment (.module none)
  | annotateCode {value : String} (h : KeyValue segment "annotate_code" value) :
      Means segment .annotateCode
  | unknown {key value : String} (h : KeyValue segment key value) (hknown : key ∉ knownKeys)
      (hmapping : ∀ file, key ≠ "M" ++ file) : Means segment (.unknown segment)

/-- Whether a segment is refused: a mapping without a file or a package, or a placement that does
not exist. -/
inductive Refused (segment : String) : Prop where
  | mapping {file package : String} (h : KeyValue segment ("M" ++ file) package)
      (hempty : file = "" ∨ package = "")
  | placement {value : String} (h : KeyValue segment "paths" value) (himport : value ≠ "import")
      (hbeside : value ≠ "source_relative")

variable {segment key value : String} {setting : Setting} {e : Error}

theorem Means.parse (h : Means segment setting) : Setting.parse segment = .ok setting := by
  have hpaths : Text.dropStart? "M" "paths" = none := by decide
  have hmodule : Text.dropStart? "M" "module" = none := by decide
  have hannotate : Text.dropStart? "M" "annotate_code" = none := by decide
  cases h with
  | @mapping file _ h hfile hpackage =>
    have hmapping : Text.dropStart? "M" ("M" ++ file) = some file :=
      Text.dropStart?_eq_some_iff.mpr rfl
    simp only [Setting.parse, splitSegment_eq_iff.mpr h, hmapping]
    exact if_neg (by simp [hfile, hpackage])
  | underImportPath h => simp [Setting.parse, splitSegment_eq_iff.mpr h, hpaths]
  | besideSource h => simp [Setting.parse, splitSegment_eq_iff.mpr h, hpaths]
  | module h hpath => simp [Setting.parse, splitSegment_eq_iff.mpr h, hmodule, hpath]
  | noModule h => simp [Setting.parse, splitSegment_eq_iff.mpr h, hmodule]
  | annotateCode h => simp [Setting.parse, splitSegment_eq_iff.mpr h, hannotate]
  | @unknown key _ h hknown hmapping =>
    have hnone : Text.dropStart? "M" key = none := Option.eq_none_iff_forall_ne_some.mpr
      fun file hfile => hmapping file (Text.dropStart?_eq_some_iff.mp hfile)
    simp only [knownKeys, List.mem_cons, List.not_mem_nil, or_false, not_or] at hknown
    simp [Setting.parse, splitSegment_eq_iff.mpr h, hnone, hknown]

theorem Refused.parse (h : Refused segment) :
    Setting.parse segment = .error (.invalidSegment segment) := by
  cases h with
  | @mapping file _ h hempty =>
    have hmapping : Text.dropStart? "M" ("M" ++ file) = some file :=
      Text.dropStart?_eq_some_iff.mpr rfl
    simp only [Setting.parse, splitSegment_eq_iff.mpr h, hmapping]
    exact if_pos (by simpa using hempty)
  | placement h himport hbeside =>
    have hpaths : Text.dropStart? "M" "paths" = none := by decide
    simp [Setting.parse, splitSegment_eq_iff.mpr h, hpaths, himport, hbeside]

theorem exists_keyValue (segment : String) : ∃ key value, KeyValue segment key value :=
  ⟨_, _, splitSegment_eq_iff.mp rfl⟩

/-- There is no other segment. -/
theorem means_or_refused (segment : String) :
    (∃ setting, Means segment setting) ∨ Refused segment := by
  obtain ⟨key, value, h⟩ := exists_keyValue segment
  by_cases hmapping : ∃ file, key = "M" ++ file
  · obtain ⟨file, rfl⟩ := hmapping
    by_cases hempty : file = "" ∨ value = ""
    · exact .inr (.mapping h hempty)
    · obtain ⟨hfile, hvalue⟩ := not_or.mp hempty
      exact .inl ⟨_, .mapping h hfile hvalue⟩
  by_cases hpaths : key = "paths"
  · subst hpaths
    by_cases himport : value = "import"
    · subst himport
      exact .inl ⟨_, .underImportPath h⟩
    by_cases hbeside : value = "source_relative"
    · subst hbeside
      exact .inl ⟨_, .besideSource h⟩
    exact .inr (.placement h himport hbeside)
  by_cases hmodule : key = "module"
  · subst hmodule
    by_cases hvalue : value = ""
    · subst hvalue
      exact .inl ⟨_, .noModule h⟩
    exact .inl ⟨_, .module h hvalue⟩
  by_cases hannotate : key = "annotate_code"
  · subst hannotate
    exact .inl ⟨_, .annotateCode h⟩
  refine .inl ⟨_, .unknown h ?_ fun file hfile => hmapping ⟨file, hfile⟩⟩
  simp [knownKeys, hpaths, hmodule, hannotate]

theorem means_iff : Means segment setting ↔ Setting.parse segment = .ok setting := by
  constructor
  · exact Means.parse
  · intro h
    rcases means_or_refused segment with ⟨setting', hmeans⟩ | hrefused
    · rw [hmeans.parse] at h
      cases h
      exact hmeans
    · rw [hrefused.parse] at h
      cases h

theorem refused_iff :
    Refused segment ↔ Setting.parse segment = .error (.invalidSegment segment) := by
  constructor
  · exact Refused.parse
  · intro h
    rcases means_or_refused segment with ⟨setting, hmeans⟩ | hrefused
    · rw [hmeans.parse] at h
      cases h
    · exact hrefused

/-! ## The last value of a key -/

/-- The value of a segment that has the given key. -/
def valueUnder? (key segment : String) : Option String :=
  let (key', value) := splitSegment segment
  if key' = key then some value else none

theorem KeyValue.valueUnder? (h : KeyValue segment key value) (key' : String) :
    valueUnder? key' segment = if key = key' then some value else none := by
  rw [Plugin.valueUnder?, splitSegment_eq_iff.mpr h]

/-- The values that a parameter has for a key, in their order. -/
def valuesOf (key parameter : String) : List String :=
  (Config.segments parameter).filterMap (valueUnder? key)

theorem valuesOf_append (key a b : String) :
    valuesOf key (a ++ "," ++ b) = valuesOf key a ++ valuesOf key b := by
  rw [valuesOf, Config.segments_append, List.filterMap_append]
  rfl

/-- A part of a configuration on which the segments with one key decide. -/
structure Part (β : Type) where
  key : String
  get : Config → β
  /-- What a value of the key makes of the part. -/
  read : String → β
  get_apply {segment : String} {setting : Setting} (h : Means segment setting) (config : Config) :
    get (config.apply setting) = ((valueUnder? key segment).map read).getD (get config)

theorem Part.get_foldl {β : Type} (part : Part β) {segments : List String}
    {settings : List Setting} (h : List.Forall₂ Means segments settings) (config : Config) :
    part.get (settings.foldl Config.apply config) =
      ((segments.filterMap (valueUnder? part.key)).getLast?.map part.read).getD
        (part.get config) := by
  induction h generalizing config with
  | nil => rfl
  | @cons segment setting segments settings hmeans _ ih =>
    rw [List.foldl_cons, ih, part.get_apply hmeans, List.filterMap_cons]
    cases valueUnder? part.key segment with
    | none => rfl
    | some value =>
      rw [List.getLast?_cons]
      cases (segments.filterMap (valueUnder? part.key)).getLast? <;> rfl

/-- The placement that a value of the key `paths` stands for. -/
def readPlacement (value : String) : Placement :=
  if value = "source_relative" then .besideSource else .underImportPath

/-- The module that a value of the key `module` stands for. -/
def readModule (value : String) : Option String := if value = "" then none else some value

theorem mapping_ne_of_mem_knownKeys (h : key ∈ knownKeys) (file : String) : "M" ++ file ≠ key := by
  intro heq
  have hkeys : ∀ k ∈ knownKeys, Text.dropStart? "M" k = none := by decide
  have hstart := hkeys key h
  rw [Text.dropStart?_eq_some_iff.mpr heq.symm] at hstart
  cases hstart

/-- A mapping has nothing to do with the other keys, -/
theorem valueUnder?_of_mapping {file : String} (hkey : key ∈ knownKeys)
    (h : KeyValue segment ("M" ++ file) value) : valueUnder? key segment = none := by
  rw [h.valueUnder?, if_neg (mapping_ne_of_mem_knownKeys hkey file)]

/-- nor has a segment without a meaning. -/
theorem valueUnder?_of_unknown {other : String} (hkey : key ∈ knownKeys)
    (h : KeyValue segment other value) (hother : other ∉ knownKeys) :
    valueUnder? key segment = none := by
  rw [h.valueUnder?, if_neg (ne_of_mem_of_not_mem hkey hother).symm]

/-- Where output is placed. -/
def placementPart : Part Placement where
  key := "paths"
  get := (·.placement)
  read := readPlacement
  get_apply h config := by
    have hkey : "paths" ∈ knownKeys := by decide
    cases h with
    | mapping h =>
      rw [valueUnder?_of_mapping hkey h]
      rfl
    | unknown h hother =>
      rw [valueUnder?_of_unknown hkey h hother]
      rfl
    | _ h => simp [h.valueUnder?, Config.apply, readPlacement]

/-- The module that is taken off output paths. -/
def modulePart : Part (Option String) where
  key := "module"
  get := (·.module?)
  read := readModule
  get_apply h config := by
    have hkey : "module" ∈ knownKeys := by decide
    cases h with
    | mapping h =>
      rw [valueUnder?_of_mapping hkey h]
      rfl
    | unknown h hother =>
      rw [valueUnder?_of_unknown hkey h hother]
      rfl
    | module h hpath => simp [h.valueUnder?, Config.apply, readModule, hpath]
    | _ h => simp [h.valueUnder?, Config.apply, readModule]

/-- The package that a file is mapped to. -/
def mappingPart (file : String) : Part (Option String) where
  key := "M" ++ file
  get := (·.mappings.find? file)
  read := some
  get_apply h config := by
    cases h with
    | @mapping other package h =>
      have hsame : "M" ++ other = "M" ++ file ↔ file = other := by
        rw [String.append_right_inj, eq_comm]
      rw [h.valueUnder?, Config.apply, Table.find?_insert]
      simp only [hsame]
      split <;> rfl
    | unknown h _ hmapping =>
      rw [h.valueUnder?, if_neg (hmapping file)]
      rfl
    | _ h =>
      rw [h.valueUnder?, if_neg (mapping_ne_of_mem_knownKeys (by decide) file).symm]
      rfl

/-! ## What a parameter sets -/

section

variable {a b parameter : String} {config ca cb c : Config} {β : Type}

theorem forall₂_means (h : (Config.parse parameter).result = .ok config) : ∃ settings,
    List.Forall₂ Means (Config.segments parameter) settings ∧
      settings.foldl Config.apply .default = config := by
  rw [Config.result_parse, map_eq_ok_iff] at h
  obtain ⟨settings, hsettings, hconfig⟩ := h
  exact ⟨settings, (mapM_eq_ok_iff.mp hsettings).imp fun _ _ => means_iff.mpr, hconfig⟩

/-- The last value of a key decides. -/
theorem Part.get_parse (part : Part β) (h : (Config.parse parameter).result = .ok config) :
    part.get config =
      ((valuesOf part.key parameter).getLast?.map part.read).getD (part.get .default) := by
  obtain ⟨settings, hmeans, rfl⟩ := forall₂_means h
  exact part.get_foldl hmeans _

/-- What a parameter sets, given by the last value of each key. -/
structure Sets (parameter : String) (config : Config) : Prop where
  placement : config.placement =
    ((valuesOf "paths" parameter).getLast?.map readPlacement).getD .underImportPath
  module : config.module? = ((valuesOf "module" parameter).getLast?.map readModule).getD none
  mappings : ∀ file, config.mappings.find? file = (valuesOf ("M" ++ file) parameter).getLast?

theorem sets_of_parse (h : (Config.parse parameter).result = .ok config) :
    Sets parameter config where
  placement := placementPart.get_parse h
  module := modulePart.get_parse h
  mappings file := by
    refine ((mappingPart file).get_parse h).trans ?_
    show ((valuesOf ("M" ++ file) parameter).getLast?.map some).getD none = _
    cases (valuesOf ("M" ++ file) parameter).getLast? <;> rfl

example : (Config.parse "module=a.b/c, paths=source_relative ,,Mx=y=z,module").result.toOption.map
    (fun c => (c.placement, c.module?, c.mappings.find? "x")) =
      some (.besideSource, none, some "y=z") := by decide +kernel

/-! ## Two parameters -/

/-- How a second parameter overrides what a first one sets. A part that the second one has a segment
for is as it sets it by itself, and every other part is kept. -/
structure Overridden (b : String) (ca cb c : Config) : Prop where
  placement : c.placement = if valuesOf "paths" b = [] then ca.placement else cb.placement
  module : c.module? = if valuesOf "module" b = [] then ca.module? else cb.module?
  mappings : ∀ file, c.mappings.find? file =
    if valuesOf ("M" ++ file) b = [] then ca.mappings.find? file else cb.mappings.find? file

/-- The last value for a key stands in the second of two parameters, if this has one. -/
theorem Part.get_parse_append (part : Part β) (ha : (Config.parse a).result = .ok ca)
    (hb : (Config.parse b).result = .ok cb)
    (hc : (Config.parse (a ++ "," ++ b)).result = .ok c) :
    part.get c = if valuesOf part.key b = [] then part.get ca else part.get cb := by
  rw [part.get_parse hc, part.get_parse ha, part.get_parse hb, valuesOf_append,
    List.getLast?_append]
  split
  · next hnone => rw [hnone, List.getLast?_nil, Option.none_or]
  · next hsome =>
    cases hlast : (valuesOf part.key b).getLast? with
    | none => exact absurd (List.getLast?_eq_none_iff.mp hlast) hsome
    | some value => rfl

theorem overridden_of_parse (ha : (Config.parse a).result = .ok ca)
    (hb : (Config.parse b).result = .ok cb)
    (hc : (Config.parse (a ++ "," ++ b)).result = .ok c) : Overridden b ca cb c where
  placement := placementPart.get_parse_append ha hb hc
  module := modulePart.get_parse_append ha hb hc
  mappings file := (mappingPart file).get_parse_append ha hb hc

/-- What two parameters make with a comma between them. -/
structure Composes (a b : String) : Prop where
  refused : ∀ e, (Config.parse (a ++ "," ++ b)).result = .error e ↔
    (Config.parse a).result = .error e ∨
      ∃ ca, (Config.parse a).result = .ok ca ∧ (Config.parse b).result = .error e
  overridden : ∀ ca cb, (Config.parse a).result = .ok ca → (Config.parse b).result = .ok cb →
    ∃ c, (Config.parse (a ++ "," ++ b)).result = .ok c ∧ Overridden b ca cb c
  /-- The second parameter is not read if the first one is refused. -/
  events : (Config.parse (a ++ "," ++ b)).events =
    (Config.parse a).events ++ if (Config.parse a).result.isOk then (Config.parse b).events else []

/-- Whether a parameter is refused does not depend on what has been set before. -/
theorem result_parse_append (ha : (Config.parse a).result = .ok ca) :
    (Config.parse (a ++ "," ++ b)).result = ((Config.segments b).mapM Setting.parse).map
      fun settings => settings.foldl Config.apply ca := by
  rw [Config.parse_append, Logged.result_bind, ha, ok_bind, Config.result_foldlM_addSegment]

theorem composes (a b : String) : Composes a b where
  refused e := by
    cases ha : (Config.parse a).result with
    | error e' =>
      rw [Config.parse_append, Logged.result_bind, ha]
      simp [bind, Except.bind]
    | ok ca =>
      rw [result_parse_append ha, map_eq_error_iff, Config.result_parse b, map_eq_error_iff]
      simp
  overridden ca cb ha hb := by
    have hc := result_parse_append (b := b) ha
    have hsettings := hb
    rw [Config.result_parse, map_eq_ok_iff] at hsettings
    obtain ⟨settings, hsettings, -⟩ := hsettings
    rw [hsettings] at hc
    exact ⟨_, hc, overridden_of_parse ha hb hc⟩
  events := by
    rw [Config.parse_append]
    cases ha : (Config.parse a).result with
    | error e => simp [Logged.events_bind_of_error ha, Except.isOk, Except.toBool]
    | ok ca =>
      rw [Logged.events_bind_of_ok ha, Config.events_foldlM_addSegment, Config.events_parse b]
      rfl

end

/-! ## Where segments go -/

/-- A parameter up to the first segment that is refused, and the segments that it is warned of. -/
structure Accounts (parameter : String) (before after ignored : List String) : Prop where
  segments : Config.segments parameter = before ++ after
  refused : ∀ segment ∈ after.head?, Refused segment
  error : failure? (Config.parse parameter).result = after.head?.map .invalidSegment
  /-- Each of these segments says one thing. -/
  unique : ∀ segment ∈ before, ∃! setting, Means segment setting
  sets : ∀ config, (Config.parse parameter).result = .ok config → Sets parameter config
  events : (Config.parse parameter).events = ignored.map .ignoredSegment
  /-- What says nothing is ignored, and nothing else is. -/
  ignored_iff : ∀ segment ∈ before, segment ∈ ignored ↔ Means segment (.unknown segment)
  /-- A segment is ignored as often as it stands there, in the order of the segments. -/
  order : ignored.Sublist before
  count : ∀ segment ∈ ignored, ignored.count segment = before.count segment

theorem isOk_iff_means :
    (Setting.parse segment).isOk = true ↔ ∃ setting, Means segment setting := by
  simp only [means_iff]
  cases Setting.parse segment <;> simp [Except.isOk, Except.toBool]

theorem exists_accounts (parameter : String) :
    ∃ before after ignored, Accounts parameter before after ignored := by
  let ok := fun segment => (Setting.parse segment).isOk
  let before := (Config.segments parameter).takeWhile ok
  let after := (Config.segments parameter).dropWhile ok
  have hsegments : before ++ after = Config.segments parameter := List.takeWhile_append_dropWhile
  have hbefore : ∀ segment ∈ before, ∃ setting, Means segment setting := fun segment hsegment =>
    isOk_iff_means.mp (List.all_eq_true.mp List.all_takeWhile segment hsegment)
  have hafter : ∀ segment ∈ after.head?, Refused segment := by
    intro segment hsegment
    have hnot := List.head?_dropWhile_not ok (Config.segments parameter)
    rw [Option.mem_def.mp hsegment] at hnot
    refine (means_or_refused segment).resolve_left fun hmeans => ?_
    simp [ok, isOk_iff_means.mpr hmeans] at hnot
  refine ⟨before, after, before.filter isIgnored, ?_⟩
  constructor
  case segments => exact hsegments.symm
  case refused => exact hafter
  case error =>
    have hnone : before.findSome? (fun segment => failure? (Setting.parse segment)) = none :=
      List.findSome?_eq_none_iff.mpr fun segment hsegment => by
        obtain ⟨setting, hmeans⟩ := hbefore segment hsegment
        rw [hmeans.parse, failure?]
    rw [Config.result_parse, failure?_map, failure?_mapM, ← hsegments, List.findSome?_append,
      hnone, Option.none_or]
    cases h : after with
    | nil => rfl
    | cons segment rest =>
      have hhead : after.head? = some segment := by rw [h, List.head?_cons]
      rw [List.findSome?_cons, (hafter segment hhead).parse]
      rfl
  case unique =>
    intro segment hsegment
    obtain ⟨setting, hmeans⟩ := hbefore segment hsegment
    refine ⟨setting, hmeans, fun other hother => ?_⟩
    exact Except.ok.inj (hother.parse.symm.trans hmeans.parse)
  case sets => exact fun config => sets_of_parse
  case events => exact Config.events_parse parameter
  case ignored_iff =>
    intro segment hsegment
    rw [List.mem_filter, means_iff, Setting.parse_eq_unknown_iff]
    simp [hsegment]
  case order => exact List.filter_sublist
  case count =>
    intro segment hsegment
    exact List.count_filter (List.of_mem_filter hsegment)

/-- **Composition.** Two parameters with a comma between them are refused as the first or else as
the second one, and set what the first one sets, overridden by the second. What they are warned of
are the warnings of both. In every parameter each segment before the first that is refused either
has its part in what is set, or is accepted without one, or is ignored with one warning. -/
theorem parse_composes : (∀ a b, Composes a b) ∧
    ∀ parameter, ∃ before after ignored, Accounts parameter before after ignored :=
  ⟨composes, exists_accounts⟩

end GoStubs.Plugin
