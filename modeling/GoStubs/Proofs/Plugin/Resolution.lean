import GoStubs.Plugin.Generate
import GoStubs.Proofs.Proto.Messages
import GoStubs.Proofs.Rpc.Description
import GoStubs.Proofs.Table
/-!
# What the names in a request mean

A method mentions messages by their full names. Such a name is looked up in a table of the messages
of all files of the request, and then the file that declares the message in a table of packages.
Where the files have names of their own and so have the messages, this finds exactly what the
descriptions say: the message with that name, in the Go package of the file that declares it.

* `Declares`: which messages a file declares, under which full names.
* `Refers`, `Lacks`: what a full name stands for, and why it stands for nothing.
* `ofProto_resolves`: the model of a file, or the error that there is instead.
-/

namespace GoStubs.Plugin

open GoStubs.Proto GoStubs.Rpc

/-! ## Declarations -/

/-- Whether a file declares a message with the given dotted path, which has the given full name. -/
def Declares (f : Proto.File) (typeName path : String) : Prop :=
  (∃ names, DeclaredAt f.messages names ∧ path = dotted names) ∧
    typeName = messageKey f.package path

/-- The full names of the messages that files declare. -/
def messageNames (files : List Proto.File) : List String :=
  files.flatMap fun f => f.messagePaths.map (messageKey f.package)

/-- What the full name of a message stands for in Go: the exported form of its dotted path, in the
package of the file that declares it. -/
def Refers (config : Config) (files : List Proto.File) (typeName : String) (ident : Go.Ident) :
    Prop :=
  ∃ f ∈ files, ∃ path, Declares f typeName path ∧
    ∃ package, goPackageOf? config f = some package ∧
      ident = ⟨package.importPath, Go.exportedName path⟩

/-- Why a mention stands for nothing in Go. -/
inductive Lacks (config : Config) (files : List Proto.File) (mention : MessageMention) :
    Error → Prop where
  /-- No file declares a message with this name. -/
  | declaration (h : ∀ f ∈ files, ∀ path, ¬ Declares f mention.typeName path) :
      Lacks config files mention (.undeclaredMessage mention.method mention.typeName)
  /-- The file that declares the message has no Go package. -/
  | package {f : Proto.File} {path : String} (hf : f ∈ files)
      (hdeclares : Declares f mention.typeName path) (h : goPackageOf? config f = none) :
      Lacks config files mention (.noGoPackage f.name)

/-- Whether files, and the messages in them, have names of their own. -/
structure DistinctlyNamed (files : List Proto.File) : Prop where
  fileNames : (files.map (·.name)).Nodup
  named : ∀ f ∈ files, HasNames f.messages
  messageNames : (messageNames files).Nodup

/-! ## The tables -/

section

variable {config : Config} {files : List Proto.File} {f : Proto.File} {typeName : String}

theorem map_fst_messagesOf (files : List Proto.File) :
    (files.flatMap messagesOf).map Prod.fst = messageNames files := by
  rw [List.map_flatMap, messageNames]
  simp only [messagesOf, List.map_map]
  rfl

theorem size_ofFiles (files : List Proto.File) :
    (MessageTable.ofFiles files).size = (messageNames files).dedup.length := by
  rw [MessageTable.ofFiles, Table.size_ofList, map_fst_messagesOf]

/-- The entries of a file are those of the messages that it declares. -/
theorem mem_messagesOf_iff (h : HasNames f.messages) {message : DeclaredMessage} :
    (typeName, message) ∈ messagesOf f ↔
      ∃ path, Declares f typeName path ∧ message = ⟨f.name, Go.exportedName path⟩ := by
  simp only [messagesOf, List.mem_map, mem_messagePaths_iff h, Declares, Prod.mk.injEq]
  constructor
  · rintro ⟨path, hpath, rfl, rfl⟩
    exact ⟨path, ⟨hpath, rfl⟩, rfl⟩
  · rintro ⟨path, ⟨hpath, rfl⟩, rfl⟩
    exact ⟨path, hpath, rfl, rfl⟩

/-- A name is in the table of messages exactly if a file declares it, and then with that file. -/
theorem find?_ofFiles_eq_some_iff (h : DistinctlyNamed files) {message : DeclaredMessage} :
    (MessageTable.ofFiles files).find? typeName = some message ↔
      ∃ f ∈ files, ∃ path, Declares f typeName path ∧
        message = ⟨f.name, Go.exportedName path⟩ := by
  have hkeys : ((files.flatMap messagesOf).map Prod.fst).Nodup := by
    rw [map_fst_messagesOf]
    exact h.messageNames
  rw [MessageTable.ofFiles, Table.find?_ofList_eq_some_iff hkeys, List.mem_flatMap]
  exact exists_congr fun f => and_congr_right fun hf => mem_messagesOf_iff (h.named f hf)

/-- In the table of packages, a file has the package that it has on its own. -/
theorem find?_packagesOf (h : (files.map (·.name)).Nodup) (hf : f ∈ files) :
    (packagesOf config files).find? f.name = goPackageOf? config f := by
  -- A file without a package has no entry, and the entries of the others bear their names.
  have hkeys : ((files.filterMap fun f =>
      (goPackageOf? config f).map fun p => (f.name, p)).map Prod.fst).Nodup := by
    rw [List.Nodup, List.pairwise_map, List.pairwise_filterMap]
    refine (List.pairwise_map.mp h).imp fun hne e he e' he' => ?_
    obtain ⟨_, -, rfl⟩ := Option.map_eq_some_iff.mp he
    obtain ⟨_, -, rfl⟩ := Option.map_eq_some_iff.mp he'
    exact hne
  refine Option.ext fun package => ?_
  rw [packagesOf, Table.find?_ofList_eq_some_iff hkeys, List.mem_filterMap]
  constructor
  · rintro ⟨g, hg, hpackage⟩
    obtain ⟨p, hp, heq⟩ := Option.map_eq_some_iff.mp hpackage
    obtain ⟨hname, rfl⟩ := Prod.mk.inj heq
    rwa [← List.inj_on_of_nodup_map h hg hf hname]
  · intro hpackage
    exact ⟨f, hf, by rw [hpackage, Option.map_some]⟩

/-! ## Meanings -/

theorem means_scopeOf (h : DistinctlyNamed files) :
    (scopeOf config files).Means = Refers config files := by
  ext typeName ident
  constructor
  · rintro ⟨message, package, hmessage, hpackage, rfl⟩
    obtain ⟨f, hf, path, hdeclares, rfl⟩ := (find?_ofFiles_eq_some_iff h).mp hmessage
    rw [scopeOf, find?_packagesOf h.fileNames hf] at hpackage
    exact ⟨f, hf, path, hdeclares, package, hpackage, rfl⟩
  · rintro ⟨f, hf, path, hdeclares, package, hpackage, rfl⟩
    refine ⟨_, package, (find?_ofFiles_eq_some_iff h).mpr ⟨f, hf, path, hdeclares, rfl⟩, ?_, rfl⟩
    rw [scopeOf, find?_packagesOf h.fileNames hf, hpackage]

theorem misses_scopeOf (h : DistinctlyNamed files) :
    (scopeOf config files).Misses = Lacks config files := by
  ext mention e
  constructor
  · rintro (hnone | ⟨hmessage, hnone⟩)
    · refine .declaration fun f hf path hdeclares => ?_
      have hfound := (find?_ofFiles_eq_some_iff h).mpr ⟨f, hf, path, hdeclares, rfl⟩
      rw [scopeOf, hfound] at hnone
      cases hnone
    · obtain ⟨f, hf, path, hdeclares, rfl⟩ := (find?_ofFiles_eq_some_iff h).mp hmessage
      rw [scopeOf, find?_packagesOf h.fileNames hf] at hnone
      exact .package hf hdeclares hnone
  · rintro (hnone | ⟨hf, hdeclares, hnone⟩)
    · refine .message (Option.eq_none_iff_forall_ne_some.mpr fun message hmessage => ?_)
      obtain ⟨f, hf, path, hdeclares, -⟩ := (find?_ofFiles_eq_some_iff h).mp hmessage
      exact hnone f hf path hdeclares
    · have hfound : (scopeOf config files).messages.find? mention.typeName = some _ :=
        (find?_ofFiles_eq_some_iff h).mpr ⟨_, hf, _, hdeclares, rfl⟩
      have hlacks : (scopeOf config files).packages.find? _ = none :=
        (find?_packagesOf h.fileNames hf).trans hnone
      exact Scope.Misses.package hfound hlacks

end

/-! ## Files -/

/-- **Resolution.** In a request whose files and messages have names of their own, take a file with
a Go package. It has a model exactly if all messages that its methods mention are declared in files
with a Go package, and that is the one that follows the description and has for each mention what it
stands for. Otherwise the error is that of the first mention that stands for nothing. -/
theorem ofProto_resolves (config : Config) (files : List Proto.File) (f : Proto.File)
    (package : Go.Package) (hfiles : DistinctlyNamed files) (hf : f ∈ files)
    (hpackage : goPackageOf? config f = some package) :
    (∀ file, File.ofProto (scopeOf config files) f = .ok file ↔
        DescribesFile (Refers config files) package f file) ∧
      (∀ e, File.ofProto (scopeOf config files) f = .error e ↔
        FirstUnresolved (Refers config files) (Lacks config files) f e) ∧
      ((∃ e, File.ofProto (scopeOf config files) f = .error e) ↔
        ∃ mention ∈ f.mentions, ∃ e, Lacks config files mention e) := by
  have hfound : (scopeOf config files).packages.find? f.name = some package := by
    rw [scopeOf, find?_packagesOf hfiles.fileNames hf, hpackage]
  have herror : ∀ e, File.ofProto (scopeOf config files) f = .error e ↔
      FirstUnresolved (Refers config files) (Lacks config files) f e := fun e => by
    simp [File.ofProto_eq_error_iff, means_scopeOf hfiles, misses_scopeOf hfiles, hfound]
  refine ⟨fun file => ?_, herror, ?_⟩
  · simp [File.ofProto_eq_ok_iff, means_scopeOf hfiles, hfound]
  · simp only [herror, ← means_scopeOf hfiles, ← misses_scopeOf hfiles, exists_firstUnresolved_iff]

/-! ## An example -/

/-- A file that declares a message inside another one. -/
def parcelProto : Proto.File where
  name? := some "parcel.proto"
  package? := some "parcel.v1"
  options? := some ⟨some "example.com/parcel;parcelpb"⟩
  messages := [⟨some "Parcel", [⟨some "label", []⟩]⟩]
  services := []

/-- A file without a proto package, whose service mentions messages of both files. -/
def postProto : Proto.File where
  name? := some "post.proto"
  package? := none
  options? := some ⟨some "example.com/post;post"⟩
  messages := [⟨some "Stamp", []⟩]
  services :=
    [⟨some "Post",
      [⟨some "Frank", some ".parcel.v1.Parcel.label", some ".Stamp", none, none⟩,
       ⟨some "Weigh", some ".parcel.v1.Parcel", some ".parcel.v1.Weight", none, none⟩]⟩]

theorem distinctlyNamed_post : DistinctlyNamed [parcelProto, postProto] where
  fileNames := by decide
  named := by
    intro f hf
    rcases List.mem_pair.mp hf with rfl | rfl <;>
      simp [parcelProto, postProto, hasNames_cons_iff, hasNames_nil, Message.name]
  messageNames := by decide

theorem ofProto_resolves_post :
    DistinctlyNamed [parcelProto, postProto] ∧ postProto ∈ [parcelProto, postProto] ∧
      goPackageOf? .default postProto = some ⟨"example.com/post", "post"⟩ ∧
      (∀ file, File.ofProto (scopeOf .default [parcelProto, postProto]) postProto = .ok file ↔
        DescribesFile (Refers .default [parcelProto, postProto]) ⟨"example.com/post", "post"⟩
          postProto file) ∧
      (∀ e, File.ofProto (scopeOf .default [parcelProto, postProto]) postProto = .error e ↔
        FirstUnresolved (Refers .default [parcelProto, postProto])
          (Lacks .default [parcelProto, postProto]) postProto e) ∧
      ((∃ e, File.ofProto (scopeOf .default [parcelProto, postProto]) postProto = .error e) ↔
        ∃ mention ∈ postProto.mentions, ∃ e,
          Lacks .default [parcelProto, postProto] mention e) :=
  have hpackage : goPackageOf? .default postProto = some ⟨"example.com/post", "post"⟩ := by
    decide +kernel
  ⟨distinctlyNamed_post, List.mem_cons_of_mem _ List.mem_cons_self, hpackage,
    ofProto_resolves .default [parcelProto, postProto] postProto _ distinctlyNamed_post
      (List.mem_cons_of_mem _ List.mem_cons_self) hpackage⟩

/-- The first two mentions mean messages of the two files, the fourth none. -/
example : File.ofProto (scopeOf .default [parcelProto, postProto]) postProto =
    .error (.undeclaredMessage "Post.Weigh" ".parcel.v1.Weight") := by rfl

end GoStubs.Plugin
