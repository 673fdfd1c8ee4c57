import GoStubs.Go.SourceFile
import GoStubs.Proofs.Go.Recorded
import GoStubs.Proofs.Text.Split
/-!
# Putting a file together

A file is put together in steps, in any order: it is asked for the spelling of an identifier, or a
text is added to its body. The two do not get into each other's way. The import block follows from
the identifiers alone and the body from the texts alone, and the aliases in the import block are
those of the spellings that have been given away.

* `SourceFile.Step`, `SourceFile.perform`: the steps, and what they answer.
* `perform_eq`: mentions and pushes, each by themselves.
* `ImportPart`, `BodyPart`: what stands behind the package clause.
* `Rearranged`: the same steps in another order, or in other pieces.
* `assembled`: the text of every file.
-/

namespace GoStubs

namespace Go

open Imports

/-! ## Steps -/

/-- A step in which a file is put together. -/
inductive SourceFile.Step where
  /-- Mentions an identifier. -/
  | mention (i : Ident)
  /-- Adds a text at the end of the body. -/
  | push (code : String)

namespace SourceFile

/-- Takes steps in turn: how the identifiers among them have been written, and the file after the
last. -/
def perform (file : SourceFile) : List Step → List String × SourceFile
  | [] => ([], file)
  | .mention i :: steps =>
    let (text, file) := file.qualify i
    let (texts, after) := file.perform steps
    (text :: texts, after)
  | .push code :: steps => (file.push code).perform steps

/-- The identifiers that steps mention. -/
def mentions (steps : List Step) : List Ident :=
  steps.filterMap fun
    | .mention i => some i
    | .push _ => none

/-- The texts that steps push, put together. -/
def pushes (steps : List Step) : String :=
  String.join <| steps.filterMap fun
    | .mention _ => none
    | .push code => some code

/-- Mentions and pushes do not depend on each other. -/
theorem perform_eq (steps : List Step) : ∀ file : SourceFile,
    file.perform steps = ((file.imports.qualifyAll (mentions steps)).1,
      { file with
        imports := (file.imports.qualifyAll (mentions steps)).2
        body := file.body ++ pushes steps }) := by
  -- The file is left open, since both kinds of steps change the one that the rest starts from.
  induction steps with
  | nil =>
    intro file
    simp [perform, mentions, pushes, Imports.qualifyAll]
  | cons step steps ih =>
    intro file
    cases step with
    | mention i =>
      have hmentions : mentions (.mention i :: steps) = i :: mentions steps := rfl
      have hpushes : pushes (.mention i :: steps) = pushes steps := rfl
      rw [perform, hmentions, hpushes]
      simp only [ih, qualify, Imports.qualifyAll]
    | push code =>
      have hmentions : mentions (.push code :: steps) = mentions steps := rfl
      have hpushes : pushes (.push code :: steps) = code ++ pushes steps := String.join_cons ..
      rw [perform, hmentions, hpushes, ih]
      simp only [push, String.append_assoc]

end SourceFile

/-! ## The parts of the text -/

/-- Whether lines are those of an import block, where identifiers have been spelled in the given
ways: one for each foreign package, in the order of the paths and with the alias that stands in all
spellings of its identifiers. -/
structure Lists (own : Package) (spelled : List (Ident × String)) (lines : List Import) : Prop where
  listed : ∀ path, path ∈ lines.map (·.path) ↔
    path ≠ own.importPath ∧ ∃ a ∈ spelled, a.1.importPath = path
  increasing : (lines.map (·.path)).Pairwise (· < ·)
  aliased : ∀ line ∈ lines, ∀ a ∈ spelled, a.1.importPath = line.path →
    a.2 = line.name ++ "." ++ a.1.name

/-- What a file has behind its package clause for the identifiers that it mentions. -/
inductive ImportPart (own : Package) (spelled : List (Ident × String)) : String → Prop where
  /-- Nothing, if all of them are the file's own. -/
  | none (h : ∀ a ∈ spelled, a.1.importPath = own.importPath) : ImportPart own spelled ""
  /-- An import block, if some are not. -/
  | block {lines : List Import} (h : ∃ a ∈ spelled, a.1.importPath ≠ own.importPath)
      (hlines : Lists own spelled lines) :
      ImportPart own spelled ("\nimport (\n" ++
        String.join (lines.map fun line => "\t" ++ line.name ++ " \"" ++ line.path ++ "\"\n") ++
        ")\n")

/-- What a file has at its end for a text that has been pushed. -/
inductive BodyPart (body : String) : String → Prop where
  /-- Nothing, if it is made of newlines. -/
  | none (h : ∀ c ∈ body.toList, c = '\n') : BodyPart body ""
  /-- An empty line and the text, with one newline in place of those at its end. -/
  | text {text newlines : String} (h : ∃ c ∈ body.toList, c ≠ '\n')
      (hbody : body = text ++ newlines) (hnewlines : ∀ c ∈ newlines.toList, c = '\n')
      (hlast : text.toList.getLast? ≠ some '\n') :
      BodyPart body ("\n" ++ text ++ "\n")

theorem ImportPart.eq_empty {own : Package} {spelled : List (Ident × String)} {part : String}
    (h : ImportPart own spelled part) (hown : ∀ a ∈ spelled, a.1.importPath = own.importPath) :
    part = "" := by
  cases h with
  | none => rfl
  | block hforeign =>
    obtain ⟨a, ha, hne⟩ := hforeign
    exact absurd (hown a ha) hne

theorem BodyPart.eq_empty {body part : String} (h : BodyPart body part)
    (hnewlines : ∀ c ∈ body.toList, c = '\n') : part = "" := by
  cases h with
  | none => rfl
  | text hsome =>
    obtain ⟨c, hc, hne⟩ := hsome
    exact absurd (hnewlines c hc) hne

theorem exists_spelled_iff (own : Package) (is : List Ident) {P : Ident → Prop} :
    (∃ a ∈ is.zip (spellings own is), P a.1) ↔ ∃ i ∈ is, P i := by
  simp only [mem_zip_spellings]
  constructor
  · rintro ⟨a, ⟨ha, -⟩, hP⟩
    exact ⟨a.1, ha, hP⟩
  · rintro ⟨i, hi, hP⟩
    exact ⟨(i, (importsAfterIdents own is).spell i), ⟨hi, rfl⟩, hP⟩

theorem lists_sorted (own : Package) (is : List Ident) :
    Lists own (is.zip (spellings own is)) (importsAfterIdents own is).sorted := by
  have hvalid := valid_importsAfterIdents own is
  have hperm := sorted_perm (importsAfterIdents own is)
  constructor
  case listed =>
    intro path
    rw [(hperm.map _).mem_iff, mem_paths_importsAfterIdents, and_comm, List.mem_map,
      exists_spelled_iff own is (P := fun i => i.importPath = path)]
  case increasing => exact List.pairwise_map.mpr hvalid.sorted_increasing
  case aliased =>
    -- All identifiers have been spelled as the table spells them in the end.
    intro line hline a ha hpath
    have halias := hvalid.aliasOf?_eq_some_iff.mpr (hperm.mem_iff.mp hline)
    rw [(mem_zip_spellings.mp ha).2]
    exact spell_of_aliasOf? (hpath ▸ halias)

theorem importPart_importBlock (own : Package) (is : List Ident) :
    ImportPart own (is.zip (spellings own is))
      (SourceFile.importBlock (importsAfterIdents own is)) := by
  have hlists := lists_sorted own is
  rw [SourceFile.importBlock]
  split
  · next hempty =>
    refine .none fun a ha => ?_
    by_contra hforeign
    have hmem := (hlists.listed a.1.importPath).mpr ⟨hforeign, a, ha, rfl⟩
    have hnil : (importsAfterIdents own is).entries = [] := by
      simpa [Imports.isEmpty] using hempty
    simp [sorted, hnil] at hmem
  · next hempty =>
    refine .block ?_ hlists
    have hne : (importsAfterIdents own is).entries ≠ [] := by
      simpa [Imports.isEmpty] using hempty
    obtain ⟨e, he⟩ := List.exists_mem_of_ne_nil _ hne
    have hsorted : e ∈ (importsAfterIdents own is).sorted := (sorted_perm _).mem_iff.mpr he
    obtain ⟨hforeign, a, ha, hpath⟩ := (hlists.listed e.path).mp (List.mem_map_of_mem hsorted)
    exact ⟨a, ha, hpath ▸ hforeign⟩

theorem bodyPart_bodyBlock (body : String) : BodyPart body (SourceFile.bodyBlock body) := by
  rw [SourceFile.bodyBlock]
  split
  · next hnil => exact .none (by simpa using Text.trimEnd_eq_nil_iff.mp hnil)
  · next cs hne =>
    have hsome : ∃ c ∈ body.toList, c ≠ '\n' := by
      by_contra hall
      exact hne (Text.trimEnd_eq_nil_iff.mpr (by simpa using hall))
    have hbody : body = String.ofList (Text.trimEnd (· = '\n') body.toList) ++
        String.ofList (body.toList.reverse.takeWhile (· = '\n')).reverse := by
      rw [← String.ofList_append, Text.trimEnd_append_dropped, String.ofList_toList]
    refine .text hsome hbody ?_ ?_
    · intro c hc
      rw [String.toList_ofList, List.mem_reverse] at hc
      simpa using List.all_eq_true.mp List.all_takeWhile c hc
    · intro hlast
      rw [String.toList_ofList] at hlast
      simpa using Text.of_mem_getLast?_trimEnd _ hlast

/-! ## Whole texts -/

/-- A file that is put together in steps: how the identifiers among them have been written, and the
file in the end. -/
def assemble (name source : String) (own : Package) (steps : List SourceFile.Step) :
    List String × SourceFile :=
  (SourceFile.empty name source own).perform steps

/-- The comments at the top of a file and its package clause. -/
def headerText (source : String) (own : Package) : String :=
  "// Code generated by protoc-gen-go-ttrpc. DO NOT EDIT.\n" ++
    "// source: " ++ source ++ "\n" ++
    "package " ++ own.name ++ "\n"

/-- Whether a text ends in a newline and has no other one before it. -/
def EndsInOneNewline (s : String) : Prop :=
  ∃ text, s = text ++ "\n" ∧ text.toList.getLast? ≠ some '\n'

section

variable {name source : String} {own : Package} {steps : List SourceFile.Step}

open SourceFile

theorem assemble_eq (name source : String) (own : Package) (steps : List Step) :
    assemble name source own steps = (spellings own (mentions steps),
      ⟨name, source, own.name, importsAfterIdents own (mentions steps), pushes steps⟩) := by
  rw [assemble, perform_eq]
  simp [SourceFile.empty, spellings, importsAfterIdents]

theorem content_assemble (name source : String) (own : Package) (steps : List Step) :
    (assemble name source own steps).2.content =
      headerText source own ++ importBlock (importsAfterIdents own (mentions steps)) ++
        bodyBlock (pushes steps) := by
  rw [assemble_eq]
  rfl

/-! ## Newlines at the end -/

theorem endsInOneNewline_append_iff {s : String} :
    EndsInOneNewline (s ++ "\n") ↔ s.toList.getLast? ≠ some '\n' := by
  constructor
  · rintro ⟨text, htext, hlast⟩
    rwa [(String.append_left_inj _).mp htext]
  · exact fun h => ⟨s, rfl, h⟩

theorem getLast?_toList_append {s t : String} (h : t.toList ≠ []) :
    (s ++ t).toList.getLast? = t.toList.getLast? := by
  rw [String.toList_append, List.getLast?_append_of_ne_nil _ h]

theorem endsInOneNewline_of_text {front body : String}
    (h : ∃ c ∈ body.toList, c ≠ '\n') {part : String} (hpart : BodyPart body part) :
    EndsInOneNewline (front ++ part) := by
  cases hpart with
  | none hnewlines =>
    obtain ⟨c, hc, hne⟩ := h
    exact absurd (hnewlines c hc) hne
  | @text text newlines _ hbody hnewlines hlast =>
    have hne : text.toList ≠ [] := by
      intro hnil
      obtain ⟨c, hc, hne⟩ := h
      rw [hbody, String.toList_append, hnil, List.nil_append] at hc
      exact hne (hnewlines c hc)
    have hassoc : front ++ ("\n" ++ text ++ "\n") = front ++ "\n" ++ text ++ "\n" := by
      simp only [String.append_assoc]
    rw [hassoc, endsInOneNewline_append_iff, getLast?_toList_append hne]
    exact hlast

theorem endsInOneNewline_of_block {front : String} {spelled : List (Ident × String)}
    (h : ∃ a ∈ spelled, a.1.importPath ≠ own.importPath) {part : String}
    (hpart : ImportPart own spelled part) : EndsInOneNewline (front ++ part) := by
  cases hpart with
  | none hown =>
    obtain ⟨a, ha, hne⟩ := h
    exact absurd (hown a ha) hne
  | @block lines _ _ =>
    -- The closing parenthesis stands before the newline, whatever the lines are.
    have hcloser : ")\n" = ")" ++ "\n" := by decide
    rw [hcloser, ← String.append_assoc, ← String.append_assoc, endsInOneNewline_append_iff,
      getLast?_toList_append (by decide)]
    decide

theorem endsInOneNewline_headerText_iff :
    EndsInOneNewline (headerText source own) ↔ own.name.toList.getLast? ≠ some '\n' := by
  refine endsInOneNewline_append_iff.trans ?_
  by_cases hname : own.name.toList = []
  · have hpackage : "package ".toList.getLast? = some ' ' := by decide
    have hempty : own.name = "" := String.toList_inj.mp hname
    rw [hname, hempty, String.append_empty, getLast?_toList_append (by decide), hpackage]
    simp
  · rw [getLast?_toList_append hname]

/-! ## Other steps -/

/-- Whether steps are the same as others but for a push that is made on the other side of a mention,
or in two parts. -/
inductive Rearranged : List Step → List Step → Prop where
  | swap (before : List Step) (i : Ident) (code : String) (after : List Step) :
      Rearranged (before ++ .push code :: .mention i :: after)
        (before ++ .mention i :: .push code :: after)
  | split (before : List Step) (code code' : String) (after : List Step) :
      Rearranged (before ++ .push (code ++ code') :: after)
        (before ++ .push code :: .push code' :: after)

theorem mentions_append (steps steps' : List Step) :
    mentions (steps ++ steps') = mentions steps ++ mentions steps' := List.filterMap_append

theorem pushes_append (steps steps' : List Step) :
    pushes (steps ++ steps') = pushes steps ++ pushes steps' := by
  rw [pushes, List.filterMap_append, String.join_append]
  rfl

theorem Rearranged.mentions_eq {steps steps' : List Step} (h : Rearranged steps steps') :
    mentions steps = mentions steps' := by
  cases h with
  | swap | split =>
    rw [mentions_append, mentions_append]
    rfl

theorem Rearranged.pushes_eq {steps steps' : List Step} (h : Rearranged steps steps') :
    pushes steps = pushes steps' := by
  cases h with
  | swap =>
    rw [pushes_append, pushes_append]
    rfl
  | split =>
    rw [pushes_append, pushes_append]
    simp [pushes, String.append_assoc]

/-- So they mention and push the same, however often they are rearranged. -/
theorem mentions_pushes_of_rearranged {steps steps' : List Step}
    (h : Relation.EqvGen Rearranged steps steps') :
    mentions steps = mentions steps' ∧ pushes steps = pushes steps' := by
  induction h with
  | rel _ _ h => exact ⟨h.mentions_eq, h.pushes_eq⟩
  | refl _ => exact ⟨rfl, rfl⟩
  | symm _ _ _ ih => exact ⟨ih.1.symm, ih.2.symm⟩
  | trans _ _ _ _ _ ih ih' => exact ⟨ih.1.trans ih'.1, ih.2.trans ih'.2⟩

/-! ## Files -/

theorem endsInOneNewline_content_iff (name source : String) (own : Package) (steps : List Step) :
    EndsInOneNewline (assemble name source own steps).2.content ↔
      (∃ c ∈ (pushes steps).toList, c ≠ '\n') ∨
        (∃ i ∈ mentions steps, i.importPath ≠ own.importPath) ∨
        own.name.toList.getLast? ≠ some '\n' := by
  have himports := importPart_importBlock own (mentions steps)
  have hbody := bodyPart_bodyBlock (pushes steps)
  have hforeign := exists_spelled_iff own (mentions steps)
    (P := fun i => i.importPath ≠ own.importPath)
  rw [content_assemble]
  by_cases htext : ∃ c ∈ (pushes steps).toList, c ≠ '\n'
  · exact iff_of_true (endsInOneNewline_of_text htext hbody) (Or.inl htext)
  -- Without a body, the text ends in the import block, and without that in the package clause.
  rw [hbody.eq_empty (by simpa using htext), String.append_empty, or_iff_right htext, ← hforeign]
  by_cases hblock : ∃ a ∈ (mentions steps).zip (spellings own (mentions steps)),
      a.1.importPath ≠ own.importPath
  · exact iff_of_true (endsInOneNewline_of_block hblock himports) (Or.inl hblock)
  rw [himports.eq_empty (by simpa using hblock), String.append_empty, or_iff_right hblock]
  exact endsInOneNewline_headerText_iff

/-- What steps make of a file. -/
structure Assembled (name source : String) (own : Package) (steps : List Step) : Prop where
  named : (assemble name source own steps).2.name = name
  /-- Each identifier has been written once. -/
  answered : (assemble name source own steps).1.length = (mentions steps).length
  /-- The text has three parts: the package clause with the comments before it, the imports with the
  aliases that have been given away, and what has been pushed. -/
  parts : ∃ importPart bodyPart,
    (assemble name source own steps).2.content =
        headerText source own ++ importPart ++ bodyPart ∧
      ImportPart own ((mentions steps).zip (assemble name source own steps).1) importPart ∧
      BodyPart (pushes steps) bodyPart
  /-- It does not matter on which side of a mention something is pushed, nor in how many parts. -/
  rearranged : ∀ steps', Relation.EqvGen Rearranged steps steps' →
    (assemble name source own steps').1 = (assemble name source own steps).1 ∧
      (assemble name source own steps').2.content = (assemble name source own steps).2.content
  /-- There is one newline at the end, unless the package clause stands there and the name of the
  package ends in another one. -/
  ending : EndsInOneNewline (assemble name source own steps).2.content ↔
    (∃ c ∈ (pushes steps).toList, c ≠ '\n') ∨
      (∃ i ∈ mentions steps, i.importPath ≠ own.importPath) ∨
      own.name.toList.getLast? ≠ some '\n'

/-- **Assembly.** The text of a file that is put together in any steps consists of the package
clause, the imports of the identifiers that have been mentioned, as they have been spelled, and what
has been pushed. It depends on the order of the mentions among each other, and on that of the pushes
among each other, but on nothing else. -/
theorem assembled (name source : String) (own : Package) (steps : List Step) :
    Assembled name source own steps where
  named := by rw [assemble_eq]
  answered := by rw [assemble_eq, spellings_eq, List.length_map]
  parts := by
    refine ⟨_, _, content_assemble name source own steps, ?_, bodyPart_bodyBlock _⟩
    rw [assemble_eq]
    exact importPart_importBlock own (mentions steps)
  rearranged steps' h := by
    obtain ⟨hmentions, hpushes⟩ := mentions_pushes_of_rearranged h
    rw [assemble_eq, assemble_eq, hmentions, hpushes]
    exact ⟨rfl, rfl⟩
  ending := endsInOneNewline_content_iff name source own steps

/-- A text is pushed before the other package is mentioned, whose path comes first. -/
example :
    let (texts, file) := assemble "echo_ttrpc.pb.go" "echo.proto" ⟨"example.com/echo", "echo"⟩
      [.mention ⟨"github.com/containerd/ttrpc", "Server"⟩, .push "var _ *ttrpc.Server\n",
       .mention ⟨"context", "Context"⟩, .push "var _ context.Context\n\n"]
    texts = ["ttrpc.Server", "context.Context"] ∧ file.content =
      "// Code generated by protoc-gen-go-ttrpc. DO NOT EDIT.\n" ++
      "// source: echo.proto\n" ++
      "package echo\n\n" ++
      "import (\n\tcontext \"context\"\n\tttrpc \"github.com/containerd/ttrpc\"\n)\n\n" ++
      "var _ *ttrpc.Server\nvar _ context.Context\n" := by
  decide +kernel

end

end Go

end GoStubs
