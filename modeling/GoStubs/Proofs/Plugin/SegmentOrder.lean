import GoStubs.Proofs.Plugin.Composition
import GoStubs.Proofs.Plugin.Relevance
import Mathlib.Data.List.Perm.Basic
/-!
# The order of segments

What a parameter sets depends on the last value of each key. If no two segments have one key, then
every value is the last of its key, wherever the segment stands. Such segments can be put into any
order: the parameter is refused or not, sets the same, and warns of the same segments. Since a run
only looks things up in what the parameter sets, it returns the same files.

* `keyOf`, `DistinctSegments`: segments with keys of their own.
* `Config.Alike`: configurations in which all look-ups find the same.
* `ReadAlike`: what two parameters have in common.
* `parse_perm`: segments in another order.
-/

namespace GoStubs.Plugin

/-! ## Segments between commas -/

/-- The key of a segment: what stands before its first equals sign. -/
def keyOf (segment : String) : String := String.ofList (segment.toList.takeWhile (· ≠ '='))

/-- Whether texts are segments with keys of their own. -/
structure DistinctSegments (segments : List String) : Prop where
  isSegment : ∀ segment ∈ segments, IsSegment segment
  keys : (segments.map keyOf).Nodup

section

variable {segments segments' : List String}

theorem DistinctSegments.perm (h : DistinctSegments segments) (hperm : segments'.Perm segments) :
    DistinctSegments segments' :=
  ⟨fun segment hsegment => h.isSegment segment (hperm.mem_iff.mp hsegment),
    (hperm.map keyOf).nodup_iff.mpr h.keys⟩

theorem keyOf_eq (segment : String) : keyOf segment = (splitSegment segment).1 := by
  obtain ⟨key, value, h⟩ := exists_keyValue segment
  have hkey := Text.forall_mem_ne h.key_equals
  rw [splitSegment_eq_iff.mpr h, keyOf]
  rcases h.text with rfl | ⟨rfl, -⟩
  · have hchars : (key ++ "=" ++ value).toList = key.toList ++ '=' :: value.toList := by simp
    rw [hchars, List.takeWhile_append_of_pos hkey, List.takeWhile_cons_of_neg (by simp),
      List.append_nil, String.ofList_toList]
  · rw [List.takeWhile_eq_self_iff.mpr hkey, String.ofList_toList]

theorem isSome_valueUnder? (key segment : String) :
    (valueUnder? key segment).isSome = (keyOf segment == key) := by
  rw [valueUnder?, keyOf_eq]
  by_cases h : (splitSegment segment).1 = key <;> simp [h]

/-- A key of one segment at most has one value at most. -/
theorem length_filterMap_valueUnder?_le (h : (segments.map keyOf).Nodup) (key : String) :
    (segments.filterMap (valueUnder? key)).length ≤ 1 :=
  calc (segments.filterMap (valueUnder? key)).length
    _ = segments.countP fun segment => keyOf segment == key := by
      simp only [List.length_filterMap_eq_countP, isSome_valueUnder?]
    _ = (segments.map keyOf).count key := by
      rw [List.count_eq_countP, List.countP_map]
      rfl
    _ ≤ 1 := List.nodup_iff_count_le_one.mp h key

theorem eq_of_perm_of_length_le_one {α : Type} {xs ys : List α} (hperm : xs.Perm ys)
    (h : ys.length ≤ 1) : xs = ys := by
  match ys with
  | [] => exact List.perm_nil.mp hperm
  | [y] => exact List.perm_singleton.mp hperm
  | _ :: _ :: _ => simp at h

/-- The values of a key do not depend on where the segments stand. -/
theorem valuesOf_parameterOf_perm (h : DistinctSegments segments)
    (hperm : segments'.Perm segments) (key : String) :
    valuesOf key (parameterOf segments') = valuesOf key (parameterOf segments) := by
  rw [valuesOf, valuesOf, Config.segments_parameterOf h.isSegment,
    Config.segments_parameterOf (h.perm hperm).isSegment]
  exact eq_of_perm_of_length_le_one (hperm.filterMap _) (length_filterMap_valueUnder?_le h.keys key)

end

/-! ## Configurations -/

/-- Whether two configurations set the same: all look-ups in them find the same. -/
structure Config.Alike (c c' : Config) : Prop where
  placement : c.placement = c'.placement
  module : c.module? = c'.module?
  mappings : ∀ file, c.mappings.find? file = c'.mappings.find? file

namespace Config.Alike

variable {c c' : Config}

theorem scopeOf_eq (h : c.Alike c') (files : List Proto.File) :
    scopeOf c files = scopeOf c' files := by
  have hpackage : goPackageOf? c = goPackageOf? c' := by
    funext f
    rw [goPackageOf?, goPackageOf?, h.mappings]
  rw [scopeOf, scopeOf, packagesOf, packagesOf, hpackage]

theorem outputPath_eq (h : c.Alike c') (file : Rpc.File) :
    outputPath c file = outputPath c' file := by
  simp only [outputPath, outputStem, h.placement, h.module]

/-- A file is generated in the same way. -/
theorem generateNamed_eq (h : c.Alike c') (files : List Proto.File) (scope : Rpc.Scope)
    (name : String) : generateNamed c files scope name = generateNamed c' files scope name := by
  simp only [generateNamed, generateFile, h.outputPath_eq]

end Config.Alike

/-- What two parameters have in common that set the same, or that are both refused. -/
inductive ReadAlike (a b : String) : Prop where
  /-- Both set the same, and ignore the same segments in some order. -/
  | accepted {ca cb : Config} {ignored ignored' : List String}
      (ha : (Config.parse a).result = .ok ca) (hb : (Config.parse b).result = .ok cb)
      (alike : ca.Alike cb) (hignored : (Config.parse a).events = ignored.map .ignoredSegment)
      (hignored' : (Config.parse b).events = ignored'.map .ignoredSegment)
      (perm : ignored.Perm ignored')
  /-- Both have segments that are refused. -/
  | refused {segment segment' : String}
      (ha : (Config.parse a).result = .error (.invalidSegment segment))
      (hb : (Config.parse b).result = .error (.invalidSegment segment'))

section

variable {segments segments' : List String} {parameter : String}

theorem alike_of_valuesOf_eq {a b : String} {ca cb : Config}
    (ha : (Config.parse a).result = .ok ca) (hb : (Config.parse b).result = .ok cb)
    (h : ∀ key, valuesOf key a = valuesOf key b) : ca.Alike cb := by
  have hpart : ∀ {β : Type} (part : Part β), part.get ca = part.get cb := fun part => by
    rw [part.get_parse ha, part.get_parse hb, h]
  exact ⟨hpart placementPart, hpart modulePart, fun file => hpart (mappingPart file)⟩

theorem readAlike (h : DistinctSegments segments) (hperm : segments'.Perm segments) :
    ReadAlike (parameterOf segments) (parameterOf segments') := by
  have hsegments := Config.segments_parameterOf h.isSegment
  have hsegments' := Config.segments_parameterOf (h.perm hperm).isSegment
  have hboth : (∃ c, (Config.parse (parameterOf segments)).result = .ok c) ↔
      ∃ c, (Config.parse (parameterOf segments')).result = .ok c := by
    rw [Config.exists_parse_eq_ok_iff, Config.exists_parse_eq_ok_iff, hsegments, hsegments']
    simp only [hperm.mem_iff]
  -- The segments that are refused may be different ones: each parameter names its first.
  cases ha : (Config.parse (parameterOf segments)).result with
  | ok ca =>
    obtain ⟨cb, hb⟩ := hboth.mp ⟨ca, ha⟩
    have halike := alike_of_valuesOf_eq ha hb fun key =>
      (valuesOf_parameterOf_perm h hperm key).symm
    refine .accepted ha hb halike (Config.events_parse_of_ok ha) (Config.events_parse_of_ok hb) ?_
    rw [hsegments, hsegments']
    exact hperm.symm.filter isIgnored
  | error e =>
    cases hb : (Config.parse (parameterOf segments')).result with
    | ok cb =>
      obtain ⟨ca, hok⟩ := hboth.mpr ⟨cb, hb⟩
      rw [ha] at hok
      cases hok
    | error e' =>
      obtain ⟨segment, rfl⟩ := Config.exists_invalidSegment_of_parse ha
      obtain ⟨segment', rfl⟩ := Config.exists_invalidSegment_of_parse hb
      exact .refused ha hb

end

/-! ## Runs -/

/-- The request with another parameter. -/
def withParameter (request : Proto.Request) (parameter : String) : Proto.Request :=
  { request with parameter? := some parameter }

/-- What a run does once it has read the parameter of its request. -/
def runWith (request : Proto.Request) (config : Config) : Logged (List Proto.OutputFile) := do
  let scope := scopeOf config request.files
  Logged.report (.indexed request.files.length scope.messages.size)
  request.filesToGenerate.mapM (generateNamed config request.files scope)

section

variable {request : Proto.Request} {a b : String} {ca cb : Config}

theorem generate_withParameter (request : Proto.Request) (parameter : String) :
    generate (withParameter request parameter) = Config.parse parameter >>= runWith request :=
  rfl

theorem Config.Alike.runWith_eq (h : ca.Alike cb) (request : Proto.Request) :
    runWith request ca = runWith request cb := by
  have hnamed := funext (h.generateNamed_eq request.files (scopeOf cb request.files))
  rw [runWith, runWith, h.scopeOf_eq, hnamed]

/-- Runs whose parameters set the same return the same. -/
theorem result_generate_of_alike (ha : (Config.parse a).result = .ok ca)
    (hb : (Config.parse b).result = .ok cb) (h : ca.Alike cb) :
    (generate (withParameter request a)).result = (generate (withParameter request b)).result := by
  rw [generate_withParameter, generate_withParameter, Logged.result_bind, Logged.result_bind, ha,
    hb, ok_bind, ok_bind, h.runWith_eq]

/-- What they report differs in the warnings of the parameters only. -/
theorem perm_events_generate_of_alike (ha : (Config.parse a).result = .ok ca)
    (hb : (Config.parse b).result = .ok cb) (h : ca.Alike cb)
    (hevents : (Config.parse a).events.Perm (Config.parse b).events) :
    (generate (withParameter request a)).events.Perm
      (generate (withParameter request b)).events := by
  rw [generate_withParameter, generate_withParameter, Logged.events_bind_of_ok ha,
    Logged.events_bind_of_ok hb, h.runWith_eq]
  exact hevents.append_right _

end

/-- **Order.** Segments with keys of their own can be put into any order. Either both parameters are
refused, or both set the same and ignore the same segments; and then a run returns the same files or
the same error with either of them, and reports the same in another order. -/
theorem parse_perm (segments segments' : List String) (h : DistinctSegments segments)
    (hperm : segments'.Perm segments) :
    ReadAlike (parameterOf segments) (parameterOf segments') ∧
      ∀ request config, (Config.parse (parameterOf segments)).result = .ok config →
        (generate (withParameter request (parameterOf segments))).result =
            (generate (withParameter request (parameterOf segments'))).result ∧
          (generate (withParameter request (parameterOf segments))).events.Perm
            (generate (withParameter request (parameterOf segments'))).events := by
  have halike := readAlike h hperm
  refine ⟨halike, fun request config hconfig => ?_⟩
  cases halike with
  | refused ha _ =>
    rw [ha] at hconfig
    cases hconfig
  | accepted ha hb same hignored hignored' perm =>
    refine ⟨result_generate_of_alike ha hb same, perm_events_generate_of_alike ha hb same ?_⟩
    rw [hignored, hignored']
    exact perm.map _

/-- Segments of several kinds, two of them without a meaning. -/
def mixedSegments : List String :=
  ["size", "Mletter.proto=example.com/box;a=b", "paths=source_relative", "colour=red"]

theorem distinctSegments_mixed : DistinctSegments mixedSegments where
  isSegment := by
    have hfirst : ∀ segment ∈ mixedSegments,
        segment.toList.head?.all (!Unicode.isBlank ·) = true := by decide
    have hlast : ∀ segment ∈ mixedSegments,
        segment.toList.getLast?.all (!Unicode.isBlank ·) = true := by decide
    have hcomma : ∀ segment ∈ mixedSegments, ',' ∉ segment.toList := by decide
    intro segment hsegment
    constructor
    case ne_empty => exact ne_of_mem_of_not_mem hsegment (by decide)
    case comma => exact hcomma segment hsegment
    case first => simpa [Option.all_eq_true] using hfirst segment hsegment
    case last => simpa [Option.all_eq_true] using hlast segment hsegment
  keys := by decide

/-- The warnings change places, and the file is still placed in the package that it is mapped to. -/
theorem parse_perm_mixed :
    DistinctSegments mixedSegments ∧ mixedSegments.reverse.Perm mixedSegments ∧
      ReadAlike "size,Mletter.proto=example.com/box;a=b,paths=source_relative,colour=red"
        "colour=red,paths=source_relative,Mletter.proto=example.com/box;a=b,size" ∧
      (generate (withParameter letterRequest
          "size,Mletter.proto=example.com/box;a=b,paths=source_relative,colour=red")).result =
        (generate (withParameter letterRequest
          "colour=red,paths=source_relative,Mletter.proto=example.com/box;a=b,size")).result :=
  have hperm : mixedSegments.reverse.Perm mixedSegments := List.reverse_perm _
  have hboth := parse_perm mixedSegments mixedSegments.reverse distinctSegments_mixed hperm
  ⟨distinctSegments_mixed, hperm, hboth.1, (hboth.2 letterRequest _ rfl).1⟩

end GoStubs.Plugin
