import GoStubs.Plugin.Parameter
import GoStubs.Proofs.Failure
import GoStubs.Proofs.Plugin.Log
import GoStubs.Proofs.Text.Split
/-!
# What a parameter sets

A parameter is read segment by segment. It sets what its segments say, a later one counting against
an earlier one, and it is refused for the first segment whose value has no meaning.

* `Config.result_parse`: the settings of a parameter.
* `Config.parse_eq_error_iff`: the parameters that are refused.
* `Config.events_parse`: the segments that are ignored, with a warning for each.
* `Config.parse_append`, `Config.segments_parameterOf`: parameters and segments, put together with
  commas.
-/

namespace GoStubs.Plugin

/-- A segment can only be refused as what it is. -/
theorem Setting.eq_invalidSegment_of_parse {segment : String} {e : Error}
    (h : Setting.parse segment = .error e) : e = .invalidSegment segment := by
  simp only [Setting.parse] at h
  repeat' split at h
  all_goals cases h
  all_goals rfl

/-- The keys that have a meaning, those of mappings apart. -/
def knownKeys : List String := ["paths", "module", "annotate_code"]

/-- Whether a segment has no meaning: it maps no file, and its key is not known. -/
def isIgnored (segment : String) : Bool :=
  let key := (splitSegment segment).1
  (Text.dropStart? "M" key).isNone && !knownKeys.contains key

/-- Only a segment without a meaning is read as such, and as itself. -/
theorem Setting.parse_eq_unknown_iff {segment other : String} :
    Setting.parse segment = .ok (.unknown other) ↔ other = segment ∧ isIgnored segment := by
  simp only [Setting.parse, isIgnored, knownKeys]
  cases Text.dropStart? "M" (splitSegment segment).1 with
  | some file =>
    simp only [Option.isNone_some, Bool.false_and, Bool.false_eq_true, and_false, iff_false]
    split <;> simp
  | none =>
    by_cases hpaths : (splitSegment segment).1 = "paths"
    · simp only [hpaths, if_true]
      split
      · simp
      · split <;> simp
    · by_cases hmodule : (splitSegment segment).1 = "module"
      · simp [hmodule]
      · by_cases hannotate : (splitSegment segment).1 = "annotate_code"
        · simp [hannotate]
        · simp [hpaths, hmodule, hannotate, eq_comm]

theorem not_isIgnored {segment : String}
    (h : ∀ other, Setting.parse segment ≠ .ok (.unknown other)) : ¬ isIgnored segment :=
  fun hignored => h segment (Setting.parse_eq_unknown_iff.mpr ⟨rfl, hignored⟩)

/-- Whether a text is a segment that is read as it is written. -/
structure IsSegment (segment : String) : Prop where
  ne_empty : segment ≠ ""
  comma : ',' ∉ segment.toList
  first : ∀ c ∈ segment.toList.head?, Unicode.isBlank c = false
  last : ∀ c ∈ segment.toList.getLast?, Unicode.isBlank c = false

/-- The parameter with the given segments. -/
def parameterOf (segments : List String) : String := ",".intercalate segments

theorem IsSegment.trim_eq {segment : String} (h : IsSegment segment) :
    Text.trim segment = segment :=
  Text.trim_eq_self h.first h.last

/-- The warnings for a parameter: one for each segment without a meaning before the first segment
that is refused. -/
def warnings (parameter : String) : List Event :=
  (((Config.segments parameter).takeWhile fun segment => (Setting.parse segment).isOk).filter
    isIgnored).map .ignoredSegment

namespace Config

theorem result_addSegment (config : Config) (segment : String) :
    (config.addSegment segment).result = (Setting.parse segment).map config.apply := by
  rw [addSegment, Logged.result_bind, Logged.result_ofExcept]
  cases Setting.parse segment with
  | error e => rfl
  | ok setting => cases setting <;> rfl

theorem result_foldlM_addSegment (segments : List String) : ∀ config : Config,
    (segments.foldlM addSegment config).result =
      (segments.mapM Setting.parse).map fun settings => settings.foldl apply config := by
  induction segments with
  | nil => exact fun config => rfl
  | cons segment segments ih =>
    -- A setting is applied before the next segment is read; this makes no difference to errors.
    intro config
    rw [List.foldlM_cons, Logged.result_bind, result_addSegment, List.mapM_cons]
    cases Setting.parse segment with
    | error e => rfl
    | ok setting =>
      refine (ih _).trans ?_
      rw [ok_bind]
      cases segments.mapM Setting.parse <;> rfl

/-- A parameter sets what its segments say, one after the other. -/
theorem result_parse (parameter : String) : (parse parameter).result =
    ((segments parameter).mapM Setting.parse).map fun settings => settings.foldl apply default :=
  result_foldlM_addSegment _ _

/-- A parameter is refused for its first segment that is. -/
theorem parse_eq_error_iff {parameter : String} {e : Error} :
    (parse parameter).result = .error e ↔ ∃ before segment after,
      segments parameter = before ++ segment :: after ∧
        (∀ x ∈ before, ∃ setting, Setting.parse x = .ok setting) ∧
        Setting.parse segment = .error e := by
  rw [result_parse, map_eq_error_iff, mapM_eq_error_iff]

theorem exists_invalidSegment_of_parse {parameter : String} {e : Error}
    (h : (parse parameter).result = .error e) : ∃ segment, e = .invalidSegment segment := by
  obtain ⟨_, segment, _, -, -, hsegment⟩ := parse_eq_error_iff.mp h
  exact ⟨segment, Setting.eq_invalidSegment_of_parse hsegment⟩

/-- A parameter is accepted if each of its segments is. -/
theorem exists_parse_eq_ok_iff {parameter : String} :
    (∃ config, (parse parameter).result = .ok config) ↔
      ∀ segment ∈ segments parameter, ∃ setting, Setting.parse segment = .ok setting := by
  rw [← exists_mapM_eq_ok_iff, result_parse]
  cases (segments parameter).mapM Setting.parse <;> simp [Except.map]

/-! ## Warnings -/

theorem events_addSegment (config : Config) (segment : String) :
    (config.addSegment segment).events =
      if isIgnored segment then [.ignoredSegment segment] else [] := by
  rw [addSegment]
  cases hparse : Setting.parse segment with
  | error e =>
    rw [if_neg (not_isIgnored (by simp [hparse]))]
    rfl
  | ok setting =>
    cases setting with
    | unknown other =>
      obtain ⟨rfl, hignored⟩ := Setting.parse_eq_unknown_iff.mp hparse
      rw [if_pos hignored]
      rfl
    | _ =>
      rw [if_neg (not_isIgnored (by simp [hparse]))]
      rfl

theorem events_foldlM_addSegment (segments : List String) : ∀ config : Config,
    (segments.foldlM addSegment config).events =
      ((segments.takeWhile fun segment => (Setting.parse segment).isOk).filter
        isIgnored).map .ignoredSegment := by
  induction segments with
  | nil => exact fun config => rfl
  | cons segment segments ih =>
    intro config
    have hresult := result_addSegment config segment
    rw [List.foldlM_cons]
    cases hparse : Setting.parse segment with
    | error e =>
      rw [hparse] at hresult
      rw [Logged.events_bind_of_error hresult, events_addSegment,
        if_neg (not_isIgnored (by simp [hparse])),
        List.takeWhile_cons_of_neg (by simp [hparse, Except.isOk, Except.toBool])]
      rfl
    | ok setting =>
      rw [hparse] at hresult
      rw [Logged.events_bind_of_ok hresult, events_addSegment, ih,
        List.takeWhile_cons_of_pos (by simp [hparse, Except.isOk, Except.toBool]),
        List.filter_cons]
      split <;> rfl

/-- A parameter is warned of for those segments without a meaning that stand before the first one
that is refused, in their order. -/
theorem events_parse (parameter : String) : (parse parameter).events = warnings parameter :=
  events_foldlM_addSegment _ _

/-- An accepted parameter is warned of for all segments without a meaning. -/
theorem events_parse_of_ok {parameter : String} {config : Config}
    (h : (parse parameter).result = .ok config) :
    (parse parameter).events = ((segments parameter).filter isIgnored).map .ignoredSegment := by
  have hall : ∀ segment ∈ segments parameter, (Setting.parse segment).isOk = true := by
    intro segment hsegment
    obtain ⟨setting, hsetting⟩ := exists_parse_eq_ok_iff.mp ⟨config, h⟩ segment hsegment
    rw [hsetting]
    rfl
  rw [events_parse, warnings, List.takeWhile_eq_self_iff.mpr hall]

/-! ## Parameters put together -/

theorem segments_append (parameter parameter' : String) :
    segments (parameter ++ "," ++ parameter') = segments parameter ++ segments parameter' := by
  have hcomma : "," = String.singleton ',' := rfl
  rw [segments, hcomma, Text.split_append, List.map_append, List.filter_append]
  rfl

/-- A second parameter is read after the first one, on top of what that sets. -/
theorem parse_append (parameter parameter' : String) : parse (parameter ++ "," ++ parameter') =
    parse parameter >>= (segments parameter').foldlM addSegment := by
  rw [parse, segments_append, List.foldlM_append]
  rfl

/-- A parameter has the segments that it is put together from. -/
theorem segments_parameterOf {segments : List String}
    (h : ∀ segment ∈ segments, IsSegment segment) :
    Config.segments (parameterOf segments) = segments := by
  have hcomma : "," = String.singleton ',' := rfl
  by_cases hnil : segments = []
  · subst hnil
    decide
  · have htrim : segments.map Text.trim = segments :=
      (List.map_congr_left fun segment hsegment => (h segment hsegment).trim_eq).trans
        (List.map_id' segments)
    rw [parameterOf, Config.segments, hcomma,
      Text.split_intercalate hnil fun segment hsegment => (h segment hsegment).comma, htrim]
    refine List.filter_eq_self.mpr fun segment hsegment => ?_
    simpa using (h segment hsegment).ne_empty

theorem segments_of_isSegment {segment : String} (h : IsSegment segment) :
    segments segment = [segment] := by
  have hone := segments_parameterOf (List.forall_mem_singleton.mpr h)
  rwa [parameterOf, String.intercalate_singleton] at hone

end Config

end GoStubs.Plugin
