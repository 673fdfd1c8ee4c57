import GoStubs.Proofs.Go.PrintedLines
import GoStubs.Proofs.Go.Scope
import GoStubs.Stub.Text
/-!
# The text of a stub, seen as lines

Generating the stub of a service never fails. Its text is the text of the declarations of the
service, line by line, and it is the text that one pass over these lines writes, which qualifies
every name when it comes to it.

* `declarations`: the declarations of a service, in the order of their text.
* `Emits`: the text of a stub and the imports after it, tied to the lines of the declarations.
* `emits`: every stub is emitted, whatever the file imports already.
* `Emits.standsIn`: the lines that declarations show stand in the text.
* `mailbox`, `mailImports`: a service with a method of each flow, and a file to put it in.
-/

namespace GoStubs.Stub

open GoStubs.Go GoStubs.Rpc

/-- The declarations of the stub of a service. -/
def declarations (s : Service) : List Decl := (sections s).flatten

/-- The lines of the stub of a service. -/
def stubLines (s : Service) : List Line := (sections s).flatMap Section.lines

/-- The import paths that every stub mentions before it writes anything. -/
def runtimePaths : List String := runtimeIdents.map (·.importPath)

/-- The stub of a service has a text, which leaves the imports of its file in the state `after`. -/
structure Emits (imports : Imports) (s : Service) (text : String) (after : Imports) : Prop where
  /-- The generator returns the text and the imports. -/
  generated : generate? imports s = some (text, after)
  /-- The text is that of the lines of the declarations. -/
  lines : text = linesText after (stubLines s)
  /-- It is what qualifying each name at the point of writing gives, once the runtime has been
  mentioned. -/
  onePass : writeLines (imports.addAll runtimePaths) (stubLines s) = (text, after)
  /-- The lines of each declaration stand together in it. -/
  declared : ∀ d ∈ declarations s, d.lines <:+: stubLines s

theorem wholeLines_program (s : Service) : WholeLines (program s) := wholeLines_printSections _

theorem programLines_program (s : Service) : programLines 0 (program s) = stubLines s :=
  programLines_printSections _

theorem linePaths_stubLines (s : Service) :
    linePaths (stubLines s) = (programIdents (program s)).map (·.importPath) := by
  rw [programIdents_eq (wholeLines_program s) 0, programLines_program, List.map_flatMap]
  rfl

theorem mentionedPaths_eq (s : Service) :
    mentionedPaths s = runtimePaths ++ linePaths (stubLines s) := by
  rw [mentionedPaths, List.map_append, linePaths_stubLines]
  rfl

theorem programIdents_program (s : Service) :
    programIdents (program s) = (declarations s).flatMap fun d => programIdents d.print :=
  programIdents_printSections (sections s)

theorem lines_infix_stubLines {s : Service} {d : Decl} (hd : d ∈ declarations s) :
    d.lines <:+: stubLines s := by
  obtain ⟨group, hgroup, hd⟩ := List.mem_flatten.mp hd
  have hlines : d.lines <:+: group.flatMap Decl.lines :=
    List.infix_of_mem_flatten (List.mem_map_of_mem hd)
  have hblank : group.flatMap Decl.lines <+: Section.lines group := List.prefix_append _ _
  have hgroups : Section.lines group <:+: stubLines s :=
    List.infix_of_mem_flatten (List.mem_map_of_mem hgroup)
  exact hlines.trans (hblank.isInfix.trans hgroups)

/-- Every service has a stub in every file. -/
theorem emits (imports : Imports) (s : Service) : ∃ text after, Emits imports s text after := by
  have htext := render?_map_spell (importsAfter imports s) (wholeLines_program s)
  rw [programLines_program] at htext
  refine ⟨_, importsAfter imports s, ?_, rfl, ?_, fun d hd => lines_infix_stubLines hd⟩
  · simp only [generate?, spelledProgram, htext, Option.map_some]
  · rw [writeLines_eq, ← Imports.addAll_append, ← mentionedPaths_eq]
    rfl

/-- Lines that the declarations show stand in the text of the stub, with its names spelled. -/
theorem Emits.standsIn {imports after : Imports} {s : Service} {text : String} {ls : List Line}
    (h : Emits imports s text after) (hls : Shows (declarations s) ls) :
    StandsIn (linesText after ls) text := by
  obtain ⟨d, hd, hpart⟩ := hls
  rw [h.lines]
  exact standsIn_linesText (hpart.trans (h.declared d hd))

/-! ## An example -/

/-- A service with a method of each flow. -/
def mailbox : Service where
  fullName := "mail.v1.MailBox"
  goName := "MailBox"
  methods :=
    [⟨"Fetch", "Fetch", ⟨"example.com/mail", "Query"⟩, ⟨"example.com/mail", "Letter"⟩,
      false, false⟩,
     ⟨"Deliver", "Deliver", ⟨"example.com/mail", "Letter"⟩, ⟨"example.com/post/ttrpc", "Receipt"⟩,
      true, false⟩,
     ⟨"watch_box", "WatchBox", ⟨"example.com/mail", "Query"⟩, ⟨"example.com/context", "Event"⟩,
      false, true⟩,
     ⟨"Sync", "Sync", ⟨"example.com/post/ttrpc", "Page"⟩, ⟨"example.com/mail", "Letter"⟩,
      true, true⟩]

/-- The imports of a file in which another package has the alias that the runtime usually gets. -/
def mailImports : Imports :=
  (Imports.ofPackage ⟨"example.com/mail", "mail"⟩).add "example.com/post/ttrpc"

example : (importsAfter mailImports mailbox).spell clientIdent = "ttrpc1.Client" := by
  decide +kernel

end GoStubs.Stub
