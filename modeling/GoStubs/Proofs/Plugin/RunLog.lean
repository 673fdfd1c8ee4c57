import GoStubs.Proofs.Plugin.Outcome
import GoStubs.Proofs.Plugin.Resolution
/-!
# The log of a run

A run reports as it goes along: the segments of the parameter that it ignores, how much it has
indexed, and each file and each service when it comes to them. Everything that can stop it at a file
comes before the first report of this file, so the log has complete reports of the files before the
one that fails, nothing of this file, and then the error.

* `fileEvents`: the report of a file.
* `Tells`: which log goes with which response.
* `respond_tells`: the log of every run.
-/

namespace GoStubs.Plugin

open GoStubs.Rpc

/-! ## Logs and responses -/

/-- The report of a file that is described as `f` and has the given output file: the file itself and
each of its services. -/
def fileEvents (f : Proto.File) (output : Proto.OutputFile) : List Event :=
  .generatingFile f.name output.name f.services.length ::
    f.services.map fun s => .generatingService (serviceFullName f.package s.name) s.methods.length

/-- Whether a file that a request names has a description and an output file. -/
def Reports (config : Config) (files : List Proto.File) (name : String)
    (report : Proto.File × Proto.OutputFile) : Prop :=
  files.find? (·.name = name) = some report.1 ∧ Generates config files name report.2

/-- The event that reports the size of a request: the number of its files, and that of the different
names of messages in them. -/
def indexedEvent (files : List Proto.File) : Event :=
  .indexed files.length (messageNames files).dedup.length

/-- Which log goes with which response to a request. -/
inductive Tells (request : Proto.Request) : List Event → Proto.Response → Prop where
  /-- The parameter is refused. -/
  | refused {e : Error} (h : (Config.parse request.parameter).result = .error e) :
      Tells request (warnings request.parameter ++ [.failed e])
        ⟨some e.message, optionalFieldsFeature, []⟩
  /-- All files are generated. -/
  | succeeded {config : Config} {reports : List (Proto.File × Proto.OutputFile)}
      (h : (Config.parse request.parameter).result = .ok config)
      (hreports : List.Forall₂ (Reports config request.files) request.filesToGenerate reports) :
      Tells request
        (warnings request.parameter ++ indexedEvent request.files ::
          reports.flatMap fun r => fileEvents r.1 r.2)
        ⟨none, optionalFieldsFeature, reports.map (·.2)⟩
  /-- There is no code for one of them. -/
  | stopped {config : Config} {before : List String} {name : String} {after : List String}
      {reports : List (Proto.File × Proto.OutputFile)} {e : Error}
      (h : (Config.parse request.parameter).result = .ok config)
      (hnames : request.filesToGenerate = before ++ name :: after)
      (hreports : List.Forall₂ (Reports config request.files) before reports)
      (hrejected : Rejected config request.files name e) :
      Tells request
        (warnings request.parameter ++ indexedEvent request.files ::
          (reports.flatMap fun r => fileEvents r.1 r.2) ++ [.failed e])
        ⟨some e.message, optionalFieldsFeature, []⟩

/-- Whether a log ends in an error with the given text. -/
def EndsInError (log : List Event) (text : String) : Prop :=
  ∃ (earlier : List Event) (event : Event), log = earlier ++ [event] ∧ event.level = .error ∧
    event.fields = [("error", .text text)]

/-! ## Files -/

section

variable {config : Config} {files : List Proto.File} {scope : Scope} {name : String}
  {f : Proto.File} {file : File} {path : String} {e : Error}

theorem events_foldlM_addService (services : List Service) : ∀ source : Go.SourceFile,
    (services.foldlM addService source).events =
      services.map fun s => .generatingService s.fullName s.methods.length := by
  induction services with
  | nil => exact fun _ => rfl
  | cons s services ih =>
    intro source
    have hevents : (addService source s).events =
        [.generatingService s.fullName s.methods.length] := by
      rw [addService, Logged.events_bind_of_ok (Logged.result_report _), Stub.generate?_eq]
      rfl
    rw [List.foldlM_cons, Logged.events_bind_of_ok (result_addService source s), ih, hevents]
    rfl

theorem events_generateFile_of_ok (h : outputPath config file = .ok path) :
    (generateFile config file).events =
      .generatingFile file.protoPath path file.services.length ::
        file.services.map fun s => .generatingService s.fullName s.methods.length := by
  rw [generateFile, Logged.events_bind_of_ok h, Logged.events_bind_of_ok (Logged.result_report _),
    events_foldlM_addService]
  rfl

theorem events_generateFile_of_error (h : outputPath config file = .error e) :
    (generateFile config file).events = [] := by
  rw [generateFile, Logged.events_bind_of_error h]
  rfl

/-- The services of a model are reported as those of the description. -/
theorem map_services_of_ofProto (h : File.ofProto scope f = .ok file) :
    (file.services.map fun s => Event.generatingService s.fullName s.methods.length) =
      f.services.map fun s =>
        .generatingService (serviceFullName f.package s.name) s.methods.length := by
  obtain ⟨package, -, hdescribes⟩ := File.ofProto_eq_ok_iff.mp h
  have hservices := hdescribes.services
  generalize f.services = ps at hservices
  generalize file.services = ss at hservices
  induction hservices with
  | nil => rfl
  | cons hs _ ih => rw [List.map_cons, List.map_cons, ih, hs.fullName, hs.methods.length_eq]

theorem events_generateNamed_of_ok {report : Proto.File × Proto.OutputFile}
    (h : Reports config files name report) :
    (generateNamed config files (scopeOf config files) name).events =
      fileEvents report.1 report.2 := by
  obtain ⟨hreport, f, hf, file, hfile, path, hpath, houtput⟩ := h
  obtain rfl : f = report.1 := Option.some.inj (hf.symm.trans hreport)
  obtain ⟨package, -, hdescribes⟩ := File.ofProto_eq_ok_iff.mp hfile
  have hfound : findFile files name = .ok report.1 := findFile_eq_ok_iff.mpr hf
  have hname : report.2.name = path := congrArg Proto.OutputFile.name houtput.symm
  rw [generateNamed, Logged.events_bind_of_ok hfound, Logged.events_bind_of_ok hfile,
    Logged.events_bind_pure, events_generateFile_of_ok hpath, map_services_of_ofProto hfile,
    hdescribes.protoPath, hdescribes.services.length_eq.symm, fileEvents, hname]
  rfl

/-- What stops a run at a file comes before the first report of the file. -/
theorem events_generateNamed_of_error
    (h : (generateNamed config files scope name).result = .error e) :
    (generateNamed config files scope name).events = [] := by
  rw [result_generateNamed] at h
  rw [generateNamed]
  cases hfound : findFile files name with
  | error e => rfl
  | ok f =>
    rw [hfound, ok_bind] at h
    rw [Logged.events_bind_of_ok (Logged.result_ofExcept (.ok f))]
    cases hfile : File.ofProto scope f with
    | error e => rfl
    | ok file =>
      rw [hfile, ok_bind, map_eq_error_iff] at h
      rw [Logged.events_bind_of_ok (Logged.result_ofExcept (.ok file)), Logged.events_bind_pure,
        events_generateFile_of_error h]
      rfl

/-- The reports of files that are generated, one after the other. -/
theorem flatMap_events_generateNamed {names : List String}
    {reports : List (Proto.File × Proto.OutputFile)}
    (h : List.Forall₂ (Reports config files) names reports) :
    (names.flatMap fun name => (generateNamed config files (scopeOf config files) name).events) =
      reports.flatMap fun r => fileEvents r.1 r.2 := by
  induction h with
  | nil => rfl
  | cons hname _ ih =>
    rw [List.flatMap_cons, List.flatMap_cons, ih, events_generateNamed_of_ok hname]

/-- Files that are generated have descriptions and output files. -/
theorem exists_reports {names : List String} {outputs : List Proto.OutputFile}
    (h : List.Forall₂ (fun name output =>
      (generateNamed config files (scopeOf config files) name).result = .ok output) names outputs) :
    ∃ reports, List.Forall₂ (Reports config files) names reports ∧ reports.map (·.2) = outputs := by
  induction h with
  | nil => exact ⟨[], .nil, rfl⟩
  | cons hname _ ih =>
    obtain ⟨reports, hreports, rfl⟩ := ih
    obtain ⟨f, hf, hfile⟩ := generateNamed_eq_ok_iff.mp hname
    exact ⟨(f, _) :: reports, .cons ⟨hf, f, hf, hfile⟩ hreports, rfl⟩

end

/-! ## Runs -/

section

variable {request : Proto.Request} {config : Config} {e : Error}

theorem indexed_eq (config : Config) (files : List Proto.File) :
    Event.indexed files.length (scopeOf config files).messages.size = indexedEvent files := by
  rw [indexedEvent, ← size_ofFiles]
  rfl

theorem events_generate_of_error (h : (Config.parse request.parameter).result = .error e) :
    (generate request).events = warnings request.parameter := by
  rw [generate, Logged.events_bind_of_error h, Config.events_parse]

theorem events_generate_of_ok (h : (Config.parse request.parameter).result = .ok config) :
    (generate request).events = warnings request.parameter ++ indexedEvent request.files ::
      (request.filesToGenerate.mapM
        (generateNamed config request.files (scopeOf config request.files))).events := by
  rw [generate, Logged.events_bind_of_ok h, Config.events_parse,
    Logged.events_bind_of_ok (Logged.result_report _), indexed_eq]
  rfl

/-- The log and the response of a run belong together. -/
theorem tells_respond (request : Proto.Request) :
    Tells request (respond request).1 (respond request).2 := by
  cases hparse : (Config.parse request.parameter).result with
  | error e =>
    have hresult : (generate request).result = .error e := by
      rw [result_generate, hparse]
      rfl
    simp only [respond, hresult, events_generate_of_error hparse]
    exact .refused hparse
  | ok config =>
    have hresult := result_generate request
    rw [hparse, ok_bind] at hresult
    have hevents := events_generate_of_ok hparse
    cases hnames : request.filesToGenerate.mapM fun name =>
      (generateNamed config request.files (scopeOf config request.files) name).result with
    | ok outputs =>
      rw [hnames] at hresult
      obtain ⟨reports, hreports, rfl⟩ := exists_reports (mapM_eq_ok_iff.mp hnames)
      rw [Logged.events_mapM_of_ok (exists_mapM_eq_ok_iff.mp ⟨_, hnames⟩),
        flatMap_events_generateNamed hreports] at hevents
      simp only [respond, hresult, hevents]
      exact .succeeded hparse hreports
    | error e =>
      rw [hnames] at hresult
      obtain ⟨before, name, after, hsplit, hbefore, herror⟩ := mapM_eq_error_iff.mp hnames
      obtain ⟨outputs, houtputs⟩ := exists_mapM_eq_ok_iff.mpr hbefore
      obtain ⟨reports, hreports, -⟩ := exists_reports (mapM_eq_ok_iff.mp houtputs)
      rw [hsplit, Logged.events_mapM_of_error hbefore herror, flatMap_events_generateNamed hreports,
        events_generateNamed_of_error herror, List.append_nil] at hevents
      simp only [respond, hresult, hevents]
      exact .stopped hparse hsplit hreports (generateNamed_eq_error_iff.mp herror)

/-! ## Errors -/

theorem level_of_mem_warnings {parameter : String} {event : Event}
    (h : event ∈ warnings parameter) : event.level = .warn := by
  obtain ⟨segment, -, rfl⟩ := List.mem_map.mp h
  rfl

theorem level_of_mem_fileEvents {f : Proto.File} {output : Proto.OutputFile} {event : Event}
    (h : event ∈ fileEvents f output) : event.level = .debug := by
  rcases List.mem_cons.mp h with rfl | h
  · rfl
  · obtain ⟨s, -, rfl⟩ := List.mem_map.mp h
    rfl

theorem endsInError_failed_iff (earlier : List Event) (e : Error) (text : String) :
    EndsInError (earlier ++ [.failed e]) text ↔ e.message = text := by
  constructor
  · rintro ⟨earlier', event, hlog, -, hfields⟩
    obtain ⟨-, hlast⟩ := List.append_inj' hlog rfl
    obtain rfl := List.singleton_inj.mp hlast
    simpa [Event.fields] using hfields
  · rintro rfl
    exact ⟨earlier, .failed e, rfl, rfl, rfl⟩

/-- A log ends in an error exactly if the response has one, and that is the same. -/
theorem Tells.error?_eq_some_iff {log : List Event} {response : Proto.Response}
    (h : Tells request log response) (text : String) :
    response.error? = some text ↔ EndsInError log text := by
  cases h with
  | refused => rw [endsInError_failed_iff, Option.some.injEq]
  | stopped => rw [endsInError_failed_iff, Option.some.injEq]
  | succeeded hparse hreports =>
    refine iff_of_false (by simp) ?_
    rintro ⟨earlier, event, hlog, hlevel, -⟩
    have hmem : event ∈ earlier ++ [event] := List.mem_append_right _ (List.mem_singleton_self _)
    rw [← hlog, List.mem_append, List.mem_cons, List.mem_flatMap] at hmem
    rcases hmem with hmem | rfl | ⟨r, -, hmem⟩
    · rw [level_of_mem_warnings hmem] at hlevel
      cases hlevel
    · cases hlevel
    · rw [level_of_mem_fileEvents hmem] at hlevel
      cases hlevel

end

/-- **The log.** The log of every run tells what its response is: warnings for the segments of the
parameter that are ignored; unless the parameter is refused, the size of the request and, file by
file, the output files with their services; and at the end the error of the response, if there is
one. -/
theorem respond_tells (request : Proto.Request) :
    Tells request (respond request).1 (respond request).2 ∧
      ∀ text, (respond request).2.error? = some text ↔ EndsInError (respond request).1 text :=
  ⟨tells_respond request, (tells_respond request).error?_eq_some_iff⟩

/-- The second file mentions a message that is not declared. -/
example : (respond
      { filesToGenerate := ["parcel.proto", "post.proto"]
        parameter? := some "colour=red,paths=source_relative"
        files := [parcelProto, postProto] }).1 =
    [.ignoredSegment "colour=red", .indexed 2 3,
     .generatingFile "parcel.proto" "parcel_ttrpc.pb.go" 0,
     .failed (.undeclaredMessage "Post.Weigh" ".parcel.v1.Weight")] := by
  decide +kernel

end GoStubs.Plugin
