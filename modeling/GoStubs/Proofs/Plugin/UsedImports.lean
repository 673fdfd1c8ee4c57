import GoStubs.Proofs.Go.ExportedName
import GoStubs.Proofs.Go.Recorded
import GoStubs.Proofs.Go.Scope
import GoStubs.Proofs.Plugin.SourceFile
import GoStubs.Proofs.Stub.Messages
/-!
# A generated file and its imports

The Go file of a proto file holds the stubs of its services, one after the other, under the imports
that writing them has left. Go accepts it only if every package that it names is imported and every
imported package is named. The first always holds. The second fails for one kind of files: the
context of calls is mentioned up front for every service, but only methods name it.

* `Decl.Writes`, `Decl.Qualifies`: what a declaration writes, and behind which alias.
* `generateFile_imports_fit`: which files use all that they import.
-/

namespace GoStubs.Go

open GoStubs.Writer

variable {imports : Imports} {d : Decl} {i : Ident}

/-! ## What a declaration writes -/

/-- Whether an identifier is written in a declaration. -/
def Decl.Writes (d : Decl) (i : Ident) : Prop := ∃ l ∈ d.lines, Word.ident i ∈ l.words

/-- Whether a declaration writes an identifier as `a.Name`, with the given `a`, in a file with the
given imports. -/
def Decl.Qualifies (imports : Imports) (d : Decl) (a : String) : Prop :=
  ∃ i, d.Writes i ∧ imports.spell i = a ++ "." ++ i.name

theorem mem_idents_iff {p : Phrase} : i ∈ p.idents ↔ Word.ident i ∈ p := by
  rw [Phrase.idents, List.mem_filterMap]
  constructor
  · rintro ⟨w, hw, heq⟩
    cases w with
    | text s => cases heq
    | ident j => exact Option.some.inj heq ▸ hw
  · exact fun h => ⟨_, h, rfl⟩

theorem Decl.writes_iff : d.Writes i ↔ i ∈ programIdents d.print := by
  rw [programIdents_eq (wholeLines_decl d) 0, List.mem_flatMap]
  simp only [mem_idents_iff]
  rfl

end GoStubs.Go

namespace GoStubs.Plugin

open GoStubs.Go GoStubs.Rpc GoStubs.Stub

/-! ## What stubs write -/

/-- A stub mentions the runtime and what its declarations write. -/
theorem mem_mentionedPaths_iff {s : Service} {p : String} :
    p ∈ mentionedPaths s ↔
      p ∈ runtimePaths ∨ ∃ d ∈ declarations s, ∃ i, d.Writes i ∧ i.importPath = p := by
  rw [mentionedPaths, List.map_append, List.mem_append, programIdents_program]
  refine or_congr_right ?_
  simp only [List.mem_map, List.mem_flatMap, Decl.writes_iff]
  constructor
  · rintro ⟨i, ⟨d, hd, hi⟩, hp⟩
    exact ⟨d, hd, i, hi, hp⟩
  · rintro ⟨d, hd, i, hi, hp⟩
    exact ⟨i, ⟨d, hd, hi⟩, hp⟩

theorem registerFunc_writes (s : Service) : (Decl.func (registerFunc s)).Writes serverIdent := by
  rw [Decl.writes_iff, programIdents_decl]
  exact List.mem_cons_self

/-- Every method takes the context of its calls. -/
theorem implementationInterface_writes {s : Service} {m : Method} (hm : m ∈ s.methods) :
    (implementationInterface s).Writes contextIdent := by
  rw [Decl.writes_iff, programIdents_decl, idents_implementationInterface, List.mem_flatMap]
  refine ⟨m, hm, ?_⟩
  unfold implementationSpec
  cases m.flow <;> exact List.mem_cons_self

/-- A service without methods needs the runtime library only. -/
theorem programIdents_of_methods_nil {s : Service} (h : s.methods = []) :
    programIdents (program s) = [serverIdent, serviceDescIdent, clientIdent, clientIdent] := by
  obtain ⟨fullName, goName, methods⟩ := s
  obtain rfl : methods = [] := h
  rfl

/-! ## What stubs need -/

/-- The declarations of the stubs of services. -/
def stubDecls (ss : List Service) : List Decl := ss.flatMap declarations

/-- Whether the stubs of services write an identifier of a package. -/
def Needs (ss : List Service) (p : String) : Prop :=
  ∃ d ∈ stubDecls ss, ∃ i, d.Writes i ∧ i.importPath = p

section

variable {own : Package} {ss : List Service} {p a : String}

theorem needs_iff : Needs ss p ↔
    ∃ s ∈ ss, ∃ d ∈ declarations s, ∃ i, d.Writes i ∧ i.importPath = p := by
  simp only [Needs, stubDecls, List.mem_flatMap]
  constructor
  · rintro ⟨d, ⟨s, hs, hd⟩, hi⟩
    exact ⟨s, hs, d, hd, hi⟩
  · rintro ⟨s, hs, d, hd, hi⟩
    exact ⟨d, ⟨s, hs, hd⟩, hi⟩

theorem mem_mentionedByAll_iff :
    p ∈ mentionedByAll ss ↔ ss ≠ [] ∧ p ∈ runtimePaths ∨ Needs ss p := by
  simp only [mentionedByAll, List.mem_flatMap, mem_mentionedPaths_iff, needs_iff]
  constructor
  · rintro ⟨s, hs, hruntime | hneeds⟩
    · exact Or.inl ⟨List.ne_nil_of_mem hs, hruntime⟩
    · exact Or.inr ⟨s, hs, hneeds⟩
  · rintro (⟨hne, hruntime⟩ | ⟨s, hs, hneeds⟩)
    · obtain ⟨s, hs⟩ := List.exists_mem_of_ne_nil ss hne
      exact ⟨s, hs, Or.inl hruntime⟩
    · exact ⟨s, hs, Or.inr hneeds⟩

/-- Every stub registers its service with a server of the runtime library. -/
theorem needs_runtimePath (h : ss ≠ []) : Needs ss runtimePath := by
  obtain ⟨s, hs⟩ := List.exists_mem_of_ne_nil ss h
  have hregister : Decl.func (registerFunc s) ∈ declarations s := by simp [declarations_eq]
  exact needs_iff.mpr ⟨s, hs, _, hregister, serverIdent, registerFunc_writes s, rfl⟩

/-- Only methods need the context of calls. -/
theorem needs_context_of_methods {s : Service} (hs : s ∈ ss) (hmethods : s.methods ≠ []) :
    Needs ss "context" := by
  obtain ⟨m, hm⟩ := List.exists_mem_of_ne_nil s.methods hmethods
  have hinterface : implementationInterface s ∈ declarations s := by simp [declarations_eq]
  exact needs_iff.mpr
    ⟨s, hs, _, hinterface, contextIdent, implementationInterface_writes hm, rfl⟩

theorem not_needs_context (h : ∀ s ∈ ss, s.methods = []) : ¬ Needs ss "context" := by
  rw [needs_iff]
  rintro ⟨s, hs, d, hd, i, hi, hpath⟩
  have hmem : i ∈ programIdents (program s) := by
    rw [programIdents_program, List.mem_flatMap]
    exact ⟨d, hd, Decl.writes_iff.mp hi⟩
  have hruntime : ∀ j ∈ [serverIdent, serviceDescIdent, clientIdent, clientIdent],
      j.importPath ≠ "context" := by decide
  rw [programIdents_of_methods_nil (h s hs)] at hmem
  exact hruntime i hmem hpath

/-- The context is the only package that can be mentioned without need. -/
theorem forall_needs_iff :
    (∀ p ∈ mentionedByAll ss, p ≠ own.importPath → Needs ss p) ↔
      ss = [] ∨ (∃ s ∈ ss, s.methods ≠ []) ∨ own.importPath = "context" := by
  constructor
  · intro h
    by_contra hnone
    rw [not_or, not_or, not_exists] at hnone
    obtain ⟨hne, hmethods, hown⟩ := hnone
    have hcontext : "context" ∈ mentionedByAll ss :=
      mem_mentionedByAll_iff.mpr (Or.inl ⟨hne, by decide⟩)
    refine not_needs_context (fun s hs => ?_) (h _ hcontext (Ne.symm hown))
    by_contra hs'
    exact hmethods s ⟨hs, hs'⟩
  · intro hcases p hp hforeign
    rcases mem_mentionedByAll_iff.mp hp with ⟨hne, hruntime⟩ | hneeds
    · rw [runtimePaths_eq, List.mem_cons] at hruntime
      rcases hruntime with rfl | hruntime
      · rcases hcases with hnil | ⟨s, hs, hmethods⟩ | hown
        · exact absurd hnil hne
        · exact needs_context_of_methods hs hmethods
        · exact absurd hown.symm hforeign
      · rw [List.eq_of_mem_replicate hruntime]
        exact needs_runtimePath hne
    · exact hneeds

/-! ## Imports and qualifiers -/

/-- An alias is used exactly if its package is needed. -/
theorem exists_qualifies_iff {imports : Imports} (h : imports.Valid)
    (ha : imports.aliasOf? p = some a) :
    (∃ d ∈ stubDecls ss, d.Qualifies imports a) ↔ Needs ss p := by
  constructor
  · rintro ⟨d, hd, i, hi, hspell⟩
    exact ⟨d, hd, i, hi, h.path_inj (Imports.spell_eq_qualified_iff.mp hspell) ha⟩
  · rintro ⟨d, hd, i, hi, rfl⟩
    exact ⟨d, hd, i, hi, Imports.spell_of_aliasOf? ha⟩

theorem isSome_aliasOf?_iff : ((seriesImports own ss).aliasOf? p).isSome ↔
    p ∈ mentionedByAll ss ∧ p ≠ own.importPath := by
  rw [seriesImports, ← Imports.mem_paths_iff, Imports.mem_paths_addAll]
  simp [Imports.ofPackage]

/-- Every import is used exactly if every package that is mentioned is needed. -/
theorem forall_listed_qualified_iff :
    (∀ a ∈ (seriesImports own ss).listedAliases,
        ∃ d ∈ stubDecls ss, d.Qualifies (seriesImports own ss) a) ↔
      ∀ p ∈ mentionedByAll ss, p ≠ own.importPath → Needs ss p := by
  have hvalid := valid_seriesImports own ss
  constructor
  · intro h p hp hforeign
    obtain ⟨a, ha⟩ := Option.isSome_iff_exists.mp (isSome_aliasOf?_iff.mpr ⟨hp, hforeign⟩)
    exact (exists_qualifies_iff hvalid ha).mp (h a (hvalid.mem_listedAliases_iff.mpr ⟨p, ha⟩))
  · intro h a ha
    obtain ⟨p, hp⟩ := hvalid.mem_listedAliases_iff.mp ha
    have hsome : ((seriesImports own ss).aliasOf? p).isSome := by simp [hp]
    obtain ⟨hmentioned, hforeign⟩ := isSome_aliasOf?_iff.mp hsome
    exact (exists_qualifies_iff hvalid hp).mpr (h p hmentioned hforeign)

/-- What a declaration writes of another package stands behind an alias. -/
theorem exists_listed_of_writes {d : Decl} (hd : d ∈ stubDecls ss) {i : Ident} (hi : d.Writes i)
    (hforeign : i.importPath ≠ own.importPath) :
    ∃ a ∈ (seriesImports own ss).listedAliases,
      (seriesImports own ss).spell i = a ++ "." ++ i.name := by
  have hmentioned : i.importPath ∈ mentionedByAll ss :=
    mem_mentionedByAll_iff.mpr (Or.inr ⟨d, hd, i, hi, rfl⟩)
  obtain ⟨a, ha⟩ := Option.isSome_iff_exists.mp (isSome_aliasOf?_iff.mpr ⟨hmentioned, hforeign⟩)
  exact ⟨a, (valid_seriesImports own ss).mem_listedAliases_iff.mpr ⟨_, ha⟩,
    Imports.spell_of_aliasOf? ha⟩

end

/-! ## Generated files -/

/-- Whether every alias in the import block of a file stands in a declaration of the stubs that the
file holds. -/
def UsesImports (file : File) (source : SourceFile) : Prop :=
  ∀ a ∈ source.imports.listedAliases, ∃ d ∈ stubDecls file.services, d.Qualifies source.imports a

/-- How the import block of a generated file fits its declarations. -/
structure ImportsFit (file : File) (source : SourceFile) : Prop where
  /-- The content is the import block and the lines of the stubs, spelled under these imports. -/
  content : source.content = source.header ++ SourceFile.importBlock source.imports ++
    SourceFile.bodyBlock (linesText source.imports (file.services.flatMap stubLines))
  declared : ∀ d ∈ stubDecls file.services, d.lines <:+: file.services.flatMap stubLines
  /-- Whatever is written of another package stands behind an alias of the import block. -/
  imported : ∀ d ∈ stubDecls file.services, ∀ i, d.Writes i →
    i.importPath ≠ file.package.importPath →
      ∃ a ∈ source.imports.listedAliases, source.imports.spell i = a ++ "." ++ i.name
  /-- So no qualifier is missing there. -/
  listed : ∀ d ∈ stubDecls file.services, ∀ a, d.Qualifies source.imports a →
    a ∈ source.imports.listedAliases
  /-- No import is idle, except that of the context where there are services but no methods. -/
  used : UsesImports file source ↔ file.services = [] ∨
    (∃ s ∈ file.services, s.methods ≠ []) ∨ file.package.importPath = "context"

/-- **Imports.** Whatever the parameter of a run, in a generated file every qualifier is an alias of
the import block, and every alias there is a qualifier, unless the file has services and none of
them has a method. -/
theorem generateFile_imports_fit (config : Config) (file : File) (source : SourceFile)
    (h : (generateFile config file).result = .ok source) : ImportsFit file source := by
  obtain ⟨name, rfl⟩ := exists_withStubs_of_result h
  have himports : (withStubs (.empty name file.protoPath file.package) file.services).imports =
      seriesImports file.package file.services := rfl
  have hbody : (withStubs (.empty name file.protoPath file.package) file.services).body =
      linesText (seriesImports file.package file.services) (file.services.flatMap stubLines) :=
    String.empty_append
  constructor
  · rw [SourceFile.content, hbody, himports]
  · intro d hd
    obtain ⟨s, hs, hd⟩ := List.mem_flatMap.mp hd
    exact (lines_infix_stubLines hd).trans (List.infix_of_mem_flatten (List.mem_map_of_mem hs))
  · intro d hd i hi hforeign
    rw [himports]
    exact exists_listed_of_writes hd hi hforeign
  · rintro d - a ⟨i, -, hspell⟩
    rw [himports] at hspell ⊢
    exact (valid_seriesImports _ _).mem_listedAliases_iff.mpr
      ⟨_, Imports.spell_eq_qualified_iff.mp hspell⟩
  · rw [UsesImports, himports, forall_listed_qualified_iff, forall_needs_iff]

/-! ## Examples -/

theorem result_generateFile_of_outputPath {config : Config} {file : File} {name : String}
    (h : outputPath config file = .ok name) :
    (generateFile config file).result =
      .ok (withStubs (.empty name file.protoPath file.package) file.services) := by
  rw [result_generateFile, h]
  rfl

/-- A file with a service that has methods. -/
def mailFile : File := ⟨"mail.proto", ⟨"example.com/mail", "mail"⟩, [mailbox]⟩

theorem generateFile_imports_fit_mailFile :
    ∃ source, (generateFile .default mailFile).result = .ok source ∧
      ImportsFit mailFile source := by
  have hname : outputPath .default mailFile = .ok "example.com/mail/mail_ttrpc.pb.go" := by
    decide +kernel
  have hfile := result_generateFile_of_outputPath hname
  exact ⟨_, hfile, generateFile_imports_fit .default mailFile _ hfile⟩

/-- A file whose only service has no methods. -/
def idleFile : File :=
  ⟨"empty.proto", ⟨"example.com/empty", "empty"⟩, [⟨"Nothing", "Nothing", []⟩]⟩

/-- Its import block lists the context of calls, which none of its declarations names. -/
theorem not_forall_usesImports :
    ¬ ∀ (config : Config) (file : File) (source : SourceFile),
      (∀ s ∈ file.services, isProtoIdentifier s.goName = true ∧
        ∀ m ∈ s.methods, isProtoIdentifier m.goName = true) →
      (generateFile config file).result = .ok source →
      (∀ d ∈ stubDecls file.services, ∀ a, d.Qualifies source.imports a →
        a ∈ source.imports.listedAliases) ∧ UsesImports file source := by
  intro h
  have hname : outputPath .default idleFile = .ok "example.com/empty/empty_ttrpc.pb.go" := by
    decide +kernel
  have huses := (h _ idleFile _ (by decide) (result_generateFile_of_outputPath hname)).2
  have himports : (withStubs (.empty "example.com/empty/empty_ttrpc.pb.go" idleFile.protoPath
    idleFile.package) idleFile.services).imports =
      seriesImports idleFile.package idleFile.services := rfl
  rw [UsesImports, himports, forall_listed_qualified_iff, forall_needs_iff] at huses
  exact absurd huses (by decide)

end GoStubs.Plugin
