import GoStubs.Proofs.Go.DottedName
import GoStubs.Proofs.Table
/-!
# The Go names of nested messages

The index of messages exports the dotted path of each message. What comes out is made of the Go
names of the messages around it and its own, joined from left to right; so the Go name of a message
goes on where that of the message around it ends.

* `JoinsNames`: an index with such Go names.
* `exportedName_compositional`: every index has them.
-/

namespace GoStubs.Rpc

open GoStubs.Proto

/-- What a file declares, under which names and with which Go name. -/
theorem mem_messagesOf_iff_nestedName {f : Proto.File} {key : String} {message : DeclaredMessage} :
    (key, message) ∈ messagesOf f ↔ ∃ names, DeclaredAt f.messages names ∧
      key = messageKey f.package (dotted (namedPart names)) ∧
      message = ⟨f.name, Go.nestedName (namedPart names)⟩ := by
  simp only [messagesOf, List.mem_map, mem_messagePaths_iff_namedPart, Prod.mk.injEq]
  constructor
  · rintro ⟨_, ⟨names, hnames, rfl⟩, rfl, rfl⟩
    exact ⟨names, hnames, rfl, by rw [Go.exportedName_dotted]⟩
  · rintro ⟨names, hnames, rfl, rfl⟩
    exact ⟨_, ⟨names, hnames, rfl⟩, rfl, by rw [Go.exportedName_dotted]⟩

/-- The Go name of a message goes on where that of the message around it ends. -/
theorem exists_nestedName_concat (outer : List String) (name : String) : ∃ rest,
    Go.nestedName (namedPart (outer ++ [name])) = Go.nestedName (namedPart outer) ++ rest := by
  induction outer with
  | nil => exact ⟨_, String.empty_append.symm⟩
  | cons n ns ih =>
    by_cases hn : n = ""
    · subst hn
      exact ih
    · have hcons : ∀ rest, namedPart (n :: rest) = n :: rest := fun rest =>
        List.dropWhile_cons_of_neg (by simpa using hn)
      rw [List.cons_append, hcons, hcons, ← List.cons_append,
        Go.nestedName_concat (List.cons_ne_nil n ns), String.append_assoc]
      exact ⟨_, rfl⟩

/-- Whether the Go names in an index of the messages of files are put together from simple names. A
message without a name counts in a path only below one that has a name. -/
structure JoinsNames (files : List Proto.File) (index : MessageTable) : Prop where
  /-- Each message has an entry, at every depth. -/
  entry : ∀ f ∈ files, ∀ names, DeclaredAt f.messages names →
    ∃ message, index.find? (messageKey f.package (dotted (namedPart names))) = some message
  /-- Each entry is that of a message, and its Go name that of the names around it and its own. -/
  goName : ∀ key message, index.find? key = some message → ∃ f ∈ files, ∃ names,
    DeclaredAt f.messages names ∧ key = messageKey f.package (dotted (namedPart names)) ∧
      message = ⟨f.name, Go.nestedName (namedPart names)⟩
  /-- Where all messages around one have names and it has one itself, all of these count. -/
  named : ∀ f ∈ files, ∀ names, DeclaredAt f.messages names → "" ∉ names → namedPart names = names
  /-- The Go name of a message extends that of the message around it. -/
  extend : ∀ f ∈ files, ∀ outer name, outer ≠ [] → DeclaredAt f.messages (outer ++ [name]) →
    DeclaredAt f.messages outer ∧ ∃ rest,
      Go.nestedName (namedPart (outer ++ [name])) = Go.nestedName (namedPart outer) ++ rest

/-- **Composition.** A name with a dot in it has the Go names of both parts, joined; and so the Go
name of a message at any depth is that of the simple names around it and of its own, joined from left
to right. -/
theorem exportedName_compositional :
    (∀ outer name, Go.exportedName (outer ++ "." ++ name) =
      Go.exportedName outer ++ Go.joint name ++ Go.exportedName name) ∧
    ∀ files, JoinsNames files (MessageTable.ofFiles files) := by
  refine ⟨Go.exportedName_append_dot, fun files => ⟨?entry, ?goName, ?named, ?extend⟩⟩
  case entry =>
    intro f hf names hnames
    have hmem := mem_messagesOf_iff_nestedName.mpr ⟨names, hnames, rfl, rfl⟩
    refine Table.exists_find?_ofList_iff.mpr ?_
    exact List.mem_map_of_mem (f := Prod.fst) (List.mem_flatMap.mpr ⟨f, hf, hmem⟩)
  case goName =>
    intro key message h
    obtain ⟨f, hf, hmem⟩ := List.mem_flatMap.mp (Table.mem_of_find?_ofList h)
    exact ⟨f, hf, mem_messagesOf_iff_nestedName.mp hmem⟩
  case named => exact fun _ _ _ _ => namedPart_eq_self
  case extend =>
    intro f _ outer name houter hdeclared
    exact ⟨hdeclared.of_concat houter, exists_nestedName_concat outer name⟩

/-- A message inside of a message inside of a message. -/
example : (MessageTable.ofFiles [⟨some "crate.proto", some "depot", none,
      [⟨some "Crate", [⟨some "seal", [⟨some "_id", []⟩]⟩]⟩], []⟩]).find? ".depot.Crate.seal._id" =
    some ⟨"crate.proto", "CrateSeal_XId"⟩ := by
  decide +kernel

end GoStubs.Rpc
