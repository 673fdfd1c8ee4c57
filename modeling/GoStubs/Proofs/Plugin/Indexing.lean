import GoStubs.Proofs.Plugin.Resolution
import GoStubs.Proofs.Table
import Mathlib.Data.Set.Card
/-!
# The index of messages

The messages of all files are indexed before any file is resolved, each under its full name. Files
may be there twice, and two files may declare one name, be it that they cut it into a package and a
path at different dots. Within one file a full name belongs to one path, so that all declarations of
a name in a file come to the same entry; and of several files the last one counts.

* `find?_messagesOf`: what one file declares.
* `find?_ofFiles_eq_some_iff_last`: the last file that declares a name.
* `Indexed`: an index as it should be.
* `ofFiles_indexed`: every index is.
-/

namespace GoStubs

open GoStubs.Proto GoStubs.Rpc

/-! ## Full names -/

/-- Within a package, a full name belongs to one path. -/
theorem messageKey_injective {package path path' : String}
    (h : messageKey package path = messageKey package path') : path = path' := by
  unfold messageKey at h
  split at h <;> exact (String.append_right_inj _).mp h

namespace Proto

theorem paths_ne_nil (m : Message) (parent : String) : m.paths parent ≠ [] := by
  cases m
  simp [Message.paths]

theorem messagePaths_eq_nil_iff {f : File} : f.messagePaths = [] ↔ f.messages = [] := by
  rw [File.messagePaths]
  cases f.messages with
  | nil => simp [Message.pathsAll]
  | cons m ms => simp [Message.pathsAll, paths_ne_nil]

end Proto

namespace Plugin

section

variable {files : List Proto.File} {f : Proto.File} {name : String} {message : DeclaredMessage}

/-! ## One file -/

/-- A file has an entry for each name that it declares, however often it does. -/
theorem find?_messagesOf (h : HasNames f.messages) :
    (Table.ofList (messagesOf f)).find? name = some message ↔
      ∃ path, Declares f name path ∧ message = ⟨f.name, Go.exportedName path⟩ := by
  have hmem : ∀ {entry}, (Table.ofList (messagesOf f)).find? name = some entry →
      ∃ path, Declares f name path ∧ entry = ⟨f.name, Go.exportedName path⟩ := fun hentry =>
    (mem_messagesOf_iff h).mp (Table.mem_of_find?_ofList hentry)
  refine ⟨hmem, ?_⟩
  rintro ⟨path, hpath, rfl⟩
  have hkey := List.mem_map_of_mem (f := Prod.fst) ((mem_messagesOf_iff h).mpr ⟨path, hpath, rfl⟩)
  obtain ⟨entry, hentry⟩ := Table.exists_find?_ofList_iff.mpr hkey
  -- The entry may be that of another declaration of the name, but not of another path.
  obtain ⟨path', hpath', rfl⟩ := hmem hentry
  rwa [messageKey_injective (hpath.2.symm.trans hpath'.2)]

theorem find?_messagesOf_eq_none_iff (h : HasNames f.messages) :
    (Table.ofList (messagesOf f)).find? name = none ↔ ∀ path, ¬ Declares f name path := by
  simp only [Option.eq_none_iff_forall_ne_some, ne_eq, find?_messagesOf h]
  constructor
  · exact fun hnone path hpath => hnone _ ⟨path, hpath, rfl⟩
  · rintro hnone _ ⟨path, hpath, -⟩
    exact hnone path hpath

/-! ## All files -/

/-- Which message counts under a full name: the one that the last file declares which declares the
name at all. -/
def LastDeclares (files : List Proto.File) (name : String) (message : DeclaredMessage) : Prop :=
  ∃ before f after path, files = before ++ f :: after ∧ Declares f name path ∧
    (∀ g ∈ after, ∀ path, ¬ Declares g name path) ∧ message = ⟨f.name, Go.exportedName path⟩

theorem find?_ofFiles_eq_some_iff_last (h : ∀ f ∈ files, HasNames f.messages) :
    (MessageTable.ofFiles files).find? name = some message ↔ LastDeclares files name message := by
  -- The last file that counts is the first one in the reversed list.
  rw [MessageTable.ofFiles, Table.find?_ofList_flatMap, findSome?_eq_some_iff_first]
  constructor
  · rintro ⟨after, f, before, hsplit, hafter, hf⟩
    have hfiles : files = before.reverse ++ f :: after.reverse := by
      rw [← List.reverse_reverse files, hsplit]
      simp
    have hnamed : ∀ g ∈ files.reverse, HasNames g.messages := fun g hg =>
      h g (List.mem_reverse.mp hg)
    rw [hsplit] at hnamed
    obtain ⟨path, hpath, rfl⟩ := (find?_messagesOf (hnamed f (by simp))).mp hf
    refine ⟨_, f, _, path, hfiles, hpath, fun g hg => ?_, rfl⟩
    have hg' := List.mem_reverse.mp hg
    exact (find?_messagesOf_eq_none_iff (hnamed g (List.mem_append_left _ hg'))).mp (hafter g hg')
  · rintro ⟨before, f, after, path, rfl, hpath, hafter, rfl⟩
    refine ⟨after.reverse, f, before.reverse, by simp, fun g hg => ?_, ?_⟩
    · have hg' := List.mem_reverse.mp hg
      exact (find?_messagesOf_eq_none_iff (h g (by simp [hg']))).mpr (hafter g hg')
    · exact (find?_messagesOf (h f (by simp))).mpr ⟨path, hpath, rfl⟩

/-- Whether some file declares a message with the given full name. -/
def IsDeclared (files : List Proto.File) (name : String) : Prop :=
  ∃ f ∈ files, ∃ path, Declares f name path

theorem mem_messageNames_iff_isDeclared (h : ∀ f ∈ files, HasNames f.messages) :
    name ∈ messageNames files ↔ IsDeclared files name := by
  rw [messageNames, List.mem_flatMap]
  refine exists_congr fun f => and_congr_right fun hf => ?_
  simp only [List.mem_map, mem_messagePaths_iff (h f hf), Declares, eq_comm (b := name)]

theorem exists_find?_ofFiles_iff (h : ∀ f ∈ files, HasNames f.messages) :
    (∃ message, (MessageTable.ofFiles files).find? name = some message) ↔
      IsDeclared files name := by
  rw [MessageTable.ofFiles, Table.exists_find?_ofList_iff, map_fst_messagesOf,
    mem_messageNames_iff_isDeclared h]

theorem size_ofFiles_eq_ncard (h : ∀ f ∈ files, HasNames f.messages) :
    (MessageTable.ofFiles files).size = {name | IsDeclared files name}.ncard := by
  have hnames : {name | IsDeclared files name} = ↑(messageNames files).toFinset := by
    ext name
    rw [Set.mem_ofPred_eq, List.coe_toFinset, Set.mem_ofPred_eq, mem_messageNames_iff_isDeclared h]
  rw [hnames, Set.ncard_coe_finset, List.card_toFinset, size_ofFiles]

theorem isEmpty_ofFiles_iff :
    (MessageTable.ofFiles files).isEmpty = true ↔ ∀ f ∈ files, f.messages = [] := by
  rw [Table.isEmpty_iff_size_eq_zero, size_ofFiles, List.length_eq_zero_iff, List.dedup_eq_nil,
    messageNames, List.flatMap_eq_nil_iff]
  simp only [List.map_eq_nil_iff, messagePaths_eq_nil_iff]

/-! ## The index -/

/-- Whether a table is the index of the messages of files. -/
structure Indexed (files : List Proto.File) (index : MessageTable) : Prop where
  /-- There is an entry for each name that is declared, and no other. -/
  entry_iff : ∀ name, (∃ message, index.find? name = some message) ↔ IsDeclared files name
  size : index.size = {name | IsDeclared files name}.ncard
  isEmpty_iff : index.isEmpty = true ↔ ∀ f ∈ files, f.messages = []
  /-- The entry is for the last file that declares the name, and for its path in this file. -/
  last_iff : ∀ name message, index.find? name = some message ↔ LastDeclares files name message

/-- **The index.** The messages of files, none of which is without a name, are indexed completely:
at every depth, without anything else, and each full name as the last file declares it that does. -/
theorem ofFiles_indexed (files : List Proto.File) (h : ∀ f ∈ files, HasNames f.messages) :
    Indexed files (MessageTable.ofFiles files) where
  entry_iff _ := exists_find?_ofFiles_iff h
  size := size_ofFiles_eq_ncard h
  isEmpty_iff := isEmpty_ofFiles_iff
  last_iff _ _ := find?_ofFiles_eq_some_iff_last h

end

/-! ## An example -/

/-- A file that declares a message inside another one. -/
def crateProto : Proto.File where
  name? := some "crate.proto"
  package? := some "depot.v1"
  options? := none
  messages := [⟨some "Crate", [⟨some "Seal", []⟩]⟩]
  services := []

/-- A file that declares a message with the same full name in a package. -/
def sealProto : Proto.File where
  name? := some "seal.proto"
  package? := some "depot.v1.Crate"
  options? := none
  messages := [⟨some "Seal", []⟩]
  services := []

theorem ofFiles_indexed_seal :
    (∀ f ∈ [crateProto, sealProto, sealProto], HasNames f.messages) ∧
      Indexed [crateProto, sealProto, sealProto]
        (MessageTable.ofFiles [crateProto, sealProto, sealProto]) :=
  have hnames : ∀ f ∈ [crateProto, sealProto, sealProto], HasNames f.messages := by
    simp [crateProto, sealProto, hasNames_cons_iff, hasNames_nil, Message.name]
  ⟨hnames, ofFiles_indexed _ hnames⟩

/-- The name counts as the last file declares it: cut behind the outer message. -/
example : (MessageTable.ofFiles [crateProto, sealProto]).find? ".depot.v1.Crate.Seal" =
      some ⟨"seal.proto", "Seal"⟩ ∧
    (MessageTable.ofFiles [sealProto, crateProto]).find? ".depot.v1.Crate.Seal" =
      some ⟨"crate.proto", "Crate_Seal"⟩ := by
  decide +kernel

end Plugin

end GoStubs
