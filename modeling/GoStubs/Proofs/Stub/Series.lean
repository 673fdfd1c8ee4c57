import GoStubs.Proofs.Go.Recorded
import GoStubs.Proofs.Stub.Emission
/-!
# Stubs in one file

The stubs of several services are written one after the other, and each finds the imports as the
one before has left them. Since nothing that is written changes its spelling later, all stubs read
as if they had been written under the imports of the finished file.

* `generateAll?`: the texts of a series of stubs.
* `generateAll?_eq`: they are the texts of the lines of the services under the last imports.
* `seriesImports`: the imports of a file that starts with them.
* `emits_again`: a stub that is written again is the same.
* `entries_addAll_runtimePaths`: the first two aliases of every file.
-/

namespace GoStubs.Stub

open GoStubs.Go GoStubs.Rpc

/-- The texts of stubs that are added to a file in turn, and the imports of the file after them. -/
def generateAll? (imports : Imports) : List Service → Option (List String × Imports)
  | [] => some ([], imports)
  | s :: ss =>
    (generate? imports s).bind fun (text, imports) =>
      (generateAll? imports ss).map fun (texts, after) => (text :: texts, after)

/-- The import paths that the stubs of services mention, in the order of mention. -/
def mentionedByAll (ss : List Service) : List String := ss.flatMap mentionedPaths

@[simp] theorem mentionedByAll_cons (s : Service) (ss : List Service) :
    mentionedByAll (s :: ss) = mentionedPaths s ++ mentionedByAll ss := List.flatMap_cons

theorem generate?_eq (imports : Imports) (s : Service) :
    generate? imports s = some (linesText (importsAfter imports s) (stubLines s),
      importsAfter imports s) := by
  obtain ⟨text, after, hemits⟩ := emits imports s
  have hafter : importsAfter imports s = after := by
    have hgenerated := hemits.generated
    rw [generate?, Option.map_eq_some_iff] at hgenerated
    obtain ⟨_, -, hpair⟩ := hgenerated
    exact (Prod.mk.inj hpair).2
  rw [hemits.generated, hemits.lines, hafter]

/-- What a stub writes is settled by the time it is written. -/
theorem linesText_stubLines_addAll (imports : Imports) (s : Service) (qs : List String) :
    linesText ((importsAfter imports s).addAll qs) (stubLines s) =
      linesText (importsAfter imports s) (stubLines s) := by
  refine linesText_addAll (fun path hpath => Imports.settled_addAll ?_ imports) qs
  rw [mentionedPaths_eq]
  exact List.mem_append_right _ hpath

/-- A series of stubs never fails, and its texts are those of one spelling. -/
theorem generateAll?_eq (ss : List Service) :
    ∀ imports : Imports, generateAll? imports ss =
      some (ss.map fun s => linesText (imports.addAll (mentionedByAll ss)) (stubLines s),
        imports.addAll (mentionedByAll ss)) := by
  induction ss with
  | nil => exact fun _ => rfl
  | cons s ss ih =>
    intro imports
    have hs := linesText_stubLines_addAll imports s (mentionedByAll ss)
    have hafter : importsAfter imports s = imports.addAll (mentionedPaths s) := rfl
    simp only [generateAll?, generate?_eq, Option.bind_some, ih, Option.map_some]
    rw [mentionedByAll_cons, Imports.addAll_append, List.map_cons, ← hafter, hs]

/-- The imports of a file of a package with the stubs of services. -/
def seriesImports (own : Package) (ss : List Service) : Imports :=
  (Imports.ofPackage own).addAll (mentionedByAll ss)

theorem valid_seriesImports (own : Package) (ss : List Service) : (seriesImports own ss).Valid :=
  (Imports.valid_ofPackage own).addAll _

/-! ## A stub that is written again -/

/-- After any further mentions the stub is the same and changes nothing any more. -/
theorem generate?_importsAfter_addAll (imports : Imports) (s : Service) (qs : List String) :
    generate? ((importsAfter imports s).addAll qs) s =
      some (linesText (importsAfter imports s) (stubLines s),
        (importsAfter imports s).addAll qs) := by
  have hafter : importsAfter ((importsAfter imports s).addAll qs) s =
      (importsAfter imports s).addAll qs :=
    Imports.addAll_of_settled fun p hp => (Imports.settled_addAll hp imports).addAll qs
  rw [generate?_eq, hafter, linesText_stubLines_addAll]

/-- **Idempotence.** A file whose imports have come about by any mentions can have the stub of a
service written again, at once or after any further mentions: the stub has the same text, and the
imports are left as they are. -/
theorem emits_again (imports : Imports) (s : Service) :
    ∃ text after, Emits imports s text after ∧ Emits after s text after ∧
      ∀ more, Emits (after.qualifyAll more).2 s text (after.qualifyAll more).2 := by
  obtain ⟨text, after, hfirst⟩ := emits imports s
  have hpair := hfirst.generated.symm.trans (generate?_eq imports s)
  obtain ⟨rfl, rfl⟩ := Prod.mk.inj (Option.some.inj hpair)
  have hagain : ∀ qs, Emits ((importsAfter imports s).addAll qs) s
      (linesText (importsAfter imports s) (stubLines s)) ((importsAfter imports s).addAll qs) := by
    intro qs
    obtain ⟨text', after', hemits⟩ := emits ((importsAfter imports s).addAll qs) s
    have hsame := hemits.generated.symm.trans (generate?_importsAfter_addAll imports s qs)
    obtain ⟨rfl, rfl⟩ := Prod.mk.inj (Option.some.inj hsame)
    exact hemits
  refine ⟨_, _, hfirst, ?_, fun more => ?_⟩
  · have hnow := hagain []
    rwa [Imports.addAll_nil] at hnow
  · rw [qualifyAll_eq]
    exact hagain (more.map (·.importPath))

/-! ## The first aliases of a file -/

theorem freshAlias_context (own : Package) :
    (Imports.ofPackage own).freshAlias "context" = "context" := by
  have hfirst : Imports.firstFree (suggestedName "context") predeclared = "context" := by
    decide +kernel
  rwa [Imports.freshAlias, Imports.taken, Imports.aliases, Imports.ofPackage, List.map_nil,
    List.append_nil]

/-- Nothing but the context of calls has an alias when the runtime library gets its own. -/
theorem freshAlias_runtimePath {imports : Imports}
    (h : imports.entries = [] ∨ imports.entries = [⟨"context", "context"⟩]) :
    imports.freshAlias runtimePath = "ttrpc" := by
  have hnone : Imports.firstFree (suggestedName runtimePath) (predeclared ++ []) = "ttrpc" := by
    decide +kernel
  have hcontext :
      Imports.firstFree (suggestedName runtimePath) (predeclared ++ ["context"]) = "ttrpc" := by
    decide +kernel
  rw [Imports.freshAlias, Imports.taken, Imports.aliases]
  rcases h with h | h
  · rwa [h]
  · rwa [h]

/-- Only the first mention of a path counts. -/
theorem addAll_replicate (imports : Imports) (p : String) (n : Nat) :
    imports.addAll (List.replicate (n + 1) p) = imports.add p := by
  rw [List.replicate_succ, Imports.addAll_cons]
  refine Imports.addAll_of_settled fun q hq => ?_
  rw [List.eq_of_mem_replicate hq]
  exact Imports.settled_add imports p

theorem runtimePaths_eq : runtimePaths = "context" :: List.replicate 8 runtimePath := rfl

theorem entries_add_of_new {imports : Imports} {p : String} (hown : p ≠ imports.ownPath)
    (hnew : p ∉ imports.entries.map (·.path)) :
    (imports.add p).entries = imports.entries ++ [⟨p, imports.freshAlias p⟩] := by
  rw [Imports.mem_paths_iff] at hnew
  rw [Imports.add_of_not_settled fun hsettled => hsettled.elim hown hnew]

theorem add_own {imports : Imports} {p : String} (hown : p = imports.ownPath) :
    imports.add p = imports := Imports.add_of_settled (Or.inl hown)

/-- The packages that every stub refers to come first, under their own names. -/
theorem entries_addAll_runtimePaths (own : Package) :
    ((Imports.ofPackage own).addAll runtimePaths).entries =
      [⟨"context", "context"⟩, ⟨runtimePath, "ttrpc"⟩].filter (·.path ≠ own.importPath) := by
  have hne : runtimePath ≠ "context" := by decide
  rw [runtimePaths_eq, Imports.addAll_cons, addAll_replicate]
  by_cases hcontext : "context" = own.importPath
  · have hruntime : runtimePath ≠ own.importPath := hcontext ▸ hne
    have hown : "context" = (Imports.ofPackage own).ownPath := hcontext
    rw [add_own hown, entries_add_of_new hruntime (by simp [Imports.ofPackage]),
      freshAlias_runtimePath (Or.inl rfl)]
    simp [Imports.ofPackage, ← hcontext, hne]
  · have hfirst : ((Imports.ofPackage own).add "context").entries = [⟨"context", "context"⟩] := by
      rw [entries_add_of_new hcontext (by simp [Imports.ofPackage]), freshAlias_context]
      rfl
    by_cases hruntime : runtimePath = own.importPath
    · have hown : runtimePath = ((Imports.ofPackage own).add "context").ownPath := by
        rw [Imports.ownPath_add]
        exact hruntime
      rw [add_own hown, hfirst]
      simp [← hruntime, Ne.symm hne]
    · rw [entries_add_of_new (by rw [Imports.ownPath_add]; exact hruntime)
        (by rw [hfirst]; simpa using hne), hfirst, freshAlias_runtimePath (Or.inr hfirst)]
      simp [hcontext, hruntime]

/-- The runtime's packages have their own names in every series of stubs, unless the file is one of
theirs. -/
theorem aliasOf?_runtimePaths {own : Package} {ss : List Service} {p a : String}
    (hp : p ∈ runtimePaths)
    (ha : (seriesImports own ss).aliasOf? p = some a) : a = "context" ∨ a = "ttrpc" := by
  cases ss with
  | nil => cases ha
  | cons s ss =>
    have hvalid := (Imports.valid_ofPackage own).addAll runtimePaths
    have hsettled := Imports.settled_addAll hp (Imports.ofPackage own)
    rw [seriesImports, mentionedByAll_cons, mentionedPaths_eq, List.append_assoc,
      Imports.addAll_append, Imports.aliasOf?_addAll _ hsettled, hvalid.aliasOf?_eq_some_iff,
      entries_addAll_runtimePaths] at ha
    have hmem := List.mem_of_mem_filter ha
    simp only [List.mem_cons, Import.mk.injEq, List.not_mem_nil, or_false] at hmem
    rcases hmem with ⟨-, rfl⟩ | ⟨-, rfl⟩
    · exact Or.inl rfl
    · exact Or.inr rfl

end GoStubs.Stub
