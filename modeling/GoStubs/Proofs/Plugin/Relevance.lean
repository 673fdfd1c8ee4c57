import GoStubs.Proofs.Plugin.Outcome
import GoStubs.Proofs.Plugin.Resolution
import Mathlib.Data.List.Perm.Basic
/-!
# What a response depends on

The descriptions in a request are looked up by name: the files that it names among all files, the
messages that their methods mention in a table of all messages, and the files that declare these
messages in a table of packages. Where nothing has the name of another thing, a look-up does not
depend on the order of the files, nor on a file that is not looked up. Such a file may therefore
come or go, whatever else there is in it or missing from it.

* `NamedApart`: files and messages that have names of their own.
* `Unrelated`: a file that is neither named by a request nor looked up for one that is.
* `respond_eq_of_perm`: files in another order, with some more that are unrelated.
* `respond_unrelated`: what does not change a response.
-/

namespace GoStubs.Plugin

open GoStubs.Rpc

/-! ## Names -/

/-- Whether no two files, and no two messages in them, have one name. -/
structure NamedApart (files : List Proto.File) : Prop where
  fileNames : (files.map (·.name)).Nodup
  messageNames : (messageNames files).Nodup

/-- Whether a file has nothing to do with the files that a request names: it is not one of them, and
declares no message that their methods mention. -/
structure Unrelated (request : Proto.Request) (f : Proto.File) : Prop where
  unnamed : f.name ∉ request.filesToGenerate
  unmentioned : ∀ g ∈ request.files, g.name ∈ request.filesToGenerate →
    ∀ mention ∈ g.mentions, mention.typeName ∉ messageNames [f]

theorem mem_messageNames_iff {files : List Proto.File} {typeName : String} :
    typeName ∈ messageNames files ↔ ∃ f ∈ files, typeName ∈ messageNames [f] := by
  simp [messageNames]

theorem perm_messageNames {files files' : List Proto.File} (h : files'.Perm files) :
    (messageNames files').Perm (messageNames files) :=
  h.flatMap_right _

namespace NamedApart

variable {files files' extra : List Proto.File}

theorem perm (h : NamedApart files) (hperm : files'.Perm files) : NamedApart files' :=
  ⟨(hperm.map _).nodup_iff.mpr h.fileNames, (perm_messageNames hperm).nodup_iff.mpr h.messageNames⟩

theorem of_append (h : NamedApart (extra ++ files)) : NamedApart files := by
  obtain ⟨hfiles, hmessages⟩ := h
  rw [List.map_append] at hfiles
  rw [Plugin.messageNames, List.flatMap_append] at hmessages
  exact ⟨hfiles.of_append_right, hmessages.of_append_right⟩

end NamedApart

/-! ## Other descriptions -/

section

variable {config : Config} {files files' extra : List Proto.File}

theorem nodup_keys_messagesOf (h : NamedApart files) :
    ((files.flatMap messagesOf).map Prod.fst).Nodup := by
  rw [map_fst_messagesOf]
  exact h.messageNames

/-- A message has its entry whichever other files there are, if these do not declare it. -/
theorem find?_ofFiles_eq (h : NamedApart files') (hperm : files'.Perm (extra ++ files))
    {typeName : String} (hextra : typeName ∉ messageNames extra) :
    (MessageTable.ofFiles files').find? typeName = (MessageTable.ofFiles files).find? typeName := by
  have hfiles := (h.perm hperm.symm).of_append
  refine Table.find?_ofList_eq (nodup_keys_messagesOf h) (nodup_keys_messagesOf hfiles)
    fun message => ?_
  have hnot : (typeName, message) ∉ extra.flatMap messagesOf := by
    intro hmem
    rw [← map_fst_messagesOf] at hextra
    exact hextra (List.mem_map_of_mem hmem)
  rw [(hperm.flatMap_right messagesOf).mem_iff, List.flatMap_append, List.mem_append]
  exact or_iff_right hnot

/-- The file of an entry is one of the files. -/
theorem exists_of_find?_ofFiles {typeName : String} {message : DeclaredMessage}
    (h : NamedApart files) (hmessage : (MessageTable.ofFiles files).find? typeName = some message) :
    ∃ f ∈ files, message.file = f.name := by
  have hmem := (Table.find?_ofList_eq_some_iff (nodup_keys_messagesOf h)).mp hmessage
  obtain ⟨f, hf, hentry⟩ := List.mem_flatMap.mp hmem
  obtain ⟨path, -, hpath⟩ := List.mem_map.mp hentry
  exact ⟨f, hf, congrArg DeclaredMessage.file (Prod.mk.inj hpath).2.symm⟩

theorem packageOf_scopeOf_eq (h : NamedApart files') (hperm : files'.Perm (extra ++ files))
    {f : Proto.File} (hf : f ∈ files) :
    (scopeOf config files').packageOf f.name = (scopeOf config files).packageOf f.name := by
  have hfiles := (h.perm hperm.symm).of_append
  have hf' : f ∈ files' := hperm.mem_iff.mpr (List.mem_append_right _ hf)
  simp only [Scope.packageOf, scopeOf, find?_packagesOf h.fileNames hf',
    find?_packagesOf hfiles.fileNames hf]

/-- A mention stands for the same whichever other files there are, if these do not declare the
message. -/
theorem identOf_scopeOf_eq (h : NamedApart files') (hperm : files'.Perm (extra ++ files))
    {method typeName : String} (hextra : typeName ∉ messageNames extra) :
    (scopeOf config files').identOf method typeName =
      (scopeOf config files).identOf method typeName := by
  have hfiles := (h.perm hperm.symm).of_append
  have hmessage : (scopeOf config files').messages.find? typeName =
      (scopeOf config files).messages.find? typeName := find?_ofFiles_eq h hperm hextra
  unfold Scope.identOf
  rw [hmessage]
  cases hfound : (scopeOf config files).messages.find? typeName with
  | none => rfl
  | some message =>
    obtain ⟨f, hf, hfile⟩ := exists_of_find?_ofFiles hfiles hfound
    simp only [hfile, packageOf_scopeOf_eq h hperm hf]

/-- A file is found whichever other files there are, if none of these has its name. -/
theorem findFile_eq (h : NamedApart files') (hperm : files'.Perm (extra ++ files)) {name : String}
    (hextra : ∀ f ∈ extra, f.name ≠ name) : findFile files' name = findFile files name := by
  have hfiles := (h.perm hperm.symm).of_append
  have hfind : files'.find? (·.name = name) = files.find? (·.name = name) := by
    refine Option.ext fun f => ?_
    rw [find?_eq_some_iff_of_nodup h.fileNames, find?_eq_some_iff_of_nodup hfiles.fileNames,
      hperm.mem_iff, List.mem_append]
    constructor
    · intro ⟨hf, hname⟩
      exact ⟨hf.resolve_left fun hmem => hextra f hmem hname, hname⟩
    · intro ⟨hf, hname⟩
      exact ⟨Or.inr hf, hname⟩
  simp only [findFile, hfind]

end

/-! ## Runs -/

section

variable {request : Proto.Request} {files' extra : List Proto.File}

theorem result_generateNamed_eq {config : Config} (h : NamedApart files')
    (hperm : files'.Perm (extra ++ request.files)) (hextra : ∀ f ∈ extra, Unrelated request f)
    {name : String} (hname : name ∈ request.filesToGenerate) :
    (generateNamed config files' (scopeOf config files') name).result =
      (generateNamed config request.files (scopeOf config request.files) name).result := by
  have hnamed : ∀ f ∈ extra, f.name ≠ name := fun f hf heq =>
    (hextra f hf).unnamed (heq ▸ hname)
  rw [result_generateNamed, result_generateNamed, findFile_eq h hperm hnamed]
  cases hfound : findFile request.files name with
  | error e => rfl
  | ok f =>
    have hfind := findFile_eq_ok_iff.mp hfound
    have hf := List.mem_of_find?_eq_some hfind
    have hfname : f.name ∈ request.filesToGenerate := by
      rw [name_of_find? hfind]
      exact hname
    have hmodel : File.ofProto (scopeOf config files') f =
        File.ofProto (scopeOf config request.files) f := by
      refine File.ofProto_congr (packageOf_scopeOf_eq h hperm hf) fun mention hmention => ?_
      refine identOf_scopeOf_eq h hperm fun hmem => ?_
      obtain ⟨g, hg, hdeclares⟩ := mem_messageNames_iff.mp hmem
      exact (hextra g hg).unmentioned f hf hfname mention hmention hdeclares
    rw [ok_bind, ok_bind, hmodel]

/-- The response is the same for the files of a request in any order, with any others among them
that are unrelated. -/
theorem respond_eq_of_perm (h : NamedApart files')
    (hperm : files'.Perm (extra ++ request.files)) (hextra : ∀ f ∈ extra, Unrelated request f) :
    (respond { request with files := files' }).2 = (respond request).2 := by
  have hresult : (generate { request with files := files' }).result =
      (generate request).result := by
    rw [result_generate, result_generate]
    have hparameter : Proto.Request.parameter { request with files := files' } =
        request.parameter := rfl
    rw [hparameter]
    congr 1
    funext config
    exact mapM_congr fun name hname => result_generateNamed_eq h hperm hextra hname
  simp only [respond, hresult]
  cases (generate request).result <;> rfl

end

/-- **Relevance.** The response to a request whose files and messages have names of their own stays
the same if the files are put into another order, if a file is added that has nothing to do with
those that the request names, or if such a file is taken away. -/
theorem respond_unrelated (request : Proto.Request) (h : NamedApart request.files) :
    (∀ files, files.Perm request.files →
        (respond { request with files }).2 = (respond request).2) ∧
      (∀ before f after, request.files = before ++ after →
        NamedApart (before ++ f :: after) → Unrelated request f →
        (respond { request with files := before ++ f :: after }).2 = (respond request).2) ∧
      (∀ before f after, request.files = before ++ f :: after → Unrelated request f →
        (respond { request with files := before ++ after }).2 = (respond request).2) := by
  refine ⟨fun files hperm => ?_, fun before f after hfiles hadded hunrelated => ?_,
    fun before f after hfiles hunrelated => ?_⟩
  · have hnone : files.Perm ([] ++ request.files) := hperm
    exact respond_eq_of_perm (h.perm hperm) hnone (by simp)
  · have hperm : (before ++ f :: after).Perm ([f] ++ request.files) := by
      rw [hfiles]
      exact List.perm_middle
    exact respond_eq_of_perm hadded hperm (by simpa using hunrelated)
  · -- The request is the one without the file, to which the file is added.
    have hperm : request.files.Perm ([f] ++ (before ++ after)) := by
      rw [hfiles]
      exact List.perm_middle
    have hsmaller : Unrelated { request with files := before ++ after } f := by
      refine ⟨hunrelated.unnamed, fun g hg => hunrelated.unmentioned g ?_⟩
      exact hperm.mem_iff.mpr (List.mem_append_right _ hg)
    have hextra : ∀ g ∈ [f], Unrelated { request with files := before ++ after } g := by
      simpa using hsmaller
    exact (respond_eq_of_perm h hperm hextra).symm

/-! ## An example -/

/-- A file whose service mentions messages of another one. -/
def letterProto : Proto.File where
  name? := some "letter.proto"
  package? := none
  options? := some ⟨some "example.com/letter"⟩
  messages := []
  services :=
    [⟨some "Letters",
      [⟨some "Stamp", some ".parcel.v1.Parcel", some ".parcel.v1.Parcel.label", none, none⟩]⟩]

/-- A file without a Go package, which declares messages of the same simple names in a package of
its own and mentions one that is not declared. -/
def strayProto : Proto.File where
  name? := some "stray.proto"
  package? := some "stray"
  options? := none
  messages := [⟨some "Parcel", [⟨some "label", []⟩]⟩]
  services := [⟨some "Letters", [⟨some "Lose", some ".stray.Parcel", some ".Lost", none, none⟩]⟩]

/-- A request for one of two files. -/
def letterRequest : Proto.Request where
  filesToGenerate := ["letter.proto"]
  parameter? := none
  files := [parcelProto, letterProto]

/-- The same request with a file that it has no use for. -/
def strayRequest : Proto.Request :=
  { letterRequest with files := [parcelProto, strayProto, letterProto] }

theorem namedApart_letterRequest : NamedApart letterRequest.files := ⟨by decide, by decide⟩

theorem namedApart_strayRequest : NamedApart strayRequest.files := ⟨by decide, by decide⟩

theorem respond_unrelated_letter :
    NamedApart letterRequest.files ∧ NamedApart strayRequest.files ∧
      Unrelated letterRequest strayProto ∧ Unrelated strayRequest strayProto ∧
      (respond { letterRequest with files := [letterProto, parcelProto] }).2 =
        (respond letterRequest).2 ∧
      (respond { letterRequest with files := [parcelProto, strayProto, letterProto] }).2 =
        (respond letterRequest).2 ∧
      (respond { strayRequest with files := [parcelProto, letterProto] }).2 =
        (respond strayRequest).2 :=
  have hadded : Unrelated letterRequest strayProto := ⟨by decide, by decide⟩
  have hremoved : Unrelated strayRequest strayProto := ⟨by decide, by decide⟩
  have hletter := respond_unrelated letterRequest namedApart_letterRequest
  have hstray := respond_unrelated strayRequest namedApart_strayRequest
  ⟨namedApart_letterRequest, namedApart_strayRequest, hadded, hremoved,
    hletter.1 _ (List.Perm.swap _ _ _),
    hletter.2.1 [parcelProto] strayProto [letterProto] rfl namedApart_strayRequest hadded,
    hstray.2.2 [parcelProto] strayProto [letterProto] rfl hremoved⟩

end GoStubs.Plugin
