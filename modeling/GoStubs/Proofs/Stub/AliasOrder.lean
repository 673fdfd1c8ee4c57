import GoStubs.Proofs.Go.FirstMention
import GoStubs.Proofs.Stub.Messages
import GoStubs.Proofs.Stub.Series
/-!
# The order of aliases in a file with stubs

The packages of a file with stubs get their aliases in the order of its text, but for those of the
runtime: every stub mentions these up front, whether its text names them first or not. So they keep
their own names, whatever the packages of the messages are called, and of two message packages
that suggest one name the one that the text names first gets the smaller number.

* `seriesImports_eq`: the mentions of a series of stubs are those of the runtime, then its text.
* `messageImports`: the packages of the messages.
* `generateAll?_aliased_in_order`: the imports of a file with stubs, in their order.
-/

namespace GoStubs.Stub

open GoStubs.Go GoStubs.Rpc

/-! ## The mentions of a series -/

/-- Stubs that find the runtime's packages settled mention what stands in their lines. -/
theorem addAll_mentionedByAll {imports : Imports} (ss : List Service)
    (h : ∀ p ∈ runtimePaths, imports.Settled p) :
    imports.addAll (mentionedByAll ss) = imports.addAll (linePaths (ss.flatMap stubLines)) := by
  induction ss generalizing imports with
  | nil => rfl
  | cons s ss ih =>
    have hlines : linePaths ((s :: ss).flatMap stubLines) =
        linePaths (stubLines s) ++ linePaths (ss.flatMap stubLines) := by
      simp [linePaths]
    rw [mentionedByAll_cons, mentionedPaths_eq, hlines, List.append_assoc, Imports.addAll_append,
      Imports.addAll_of_settled h, Imports.addAll_append, Imports.addAll_append,
      ih fun p hp => (h p hp).addAll _]

/-- What is mentioned before the first line of the stubs. -/
def startPaths (ss : List Service) : List String := if ss = [] then [] else runtimePaths

/-- What a file imports before the first line of its stubs. -/
def startImports (own : Package) (ss : List Service) : Imports :=
  (Imports.ofPackage own).addAll (startPaths ss)

theorem startPaths_subset (ss : List Service) : startPaths ss ⊆ runtimePaths := by
  unfold startPaths
  split
  · exact List.nil_subset _
  · exact List.Subset.refl _

theorem startPaths_of_ne_nil {ss : List Service} (h : ss ≠ []) : startPaths ss = runtimePaths :=
  if_neg h

theorem seriesImports_eq (own : Package) (ss : List Service) :
    seriesImports own ss = (startImports own ss).addAll (linePaths (ss.flatMap stubLines)) := by
  cases ss with
  | nil => rfl
  | cons s ss =>
    have hsettled : ∀ p ∈ runtimePaths, ((Imports.ofPackage own).addAll runtimePaths).Settled p :=
      fun p hp => Imports.settled_addAll hp _
    rw [startImports, startPaths_of_ne_nil (List.cons_ne_nil s ss),
      ← addAll_mentionedByAll _ hsettled, seriesImports, mentionedByAll_cons, mentionedPaths_eq,
      List.append_assoc, Imports.addAll_append _ runtimePaths,
      Imports.addAll_append _ runtimePaths, Imports.addAll_of_settled hsettled]

/-! ## The packages of messages -/

/-- The packages of the runtime, which have their own names. -/
def runtimeImports (own : Package) : List Import :=
  [⟨"context", "context"⟩, ⟨runtimePath, "ttrpc"⟩].filter (·.path ≠ own.importPath)

/-- The other imports of a file, in the order in which they got their aliases. -/
def messageImports (imports : Imports) : List Import :=
  imports.entries.filter (·.path ∉ runtimePaths)

/-- The words of the stubs of services. -/
def seriesWords (imports : Imports) (ss : List Service) : Phrase :=
  textWords imports (ss.flatMap stubLines)

variable {own : Package} {ss : List Service} {e : Import} {p : String}

theorem entries_startImports (own : Package) (ss : List Service) :
    (startImports own ss).entries = if ss = [] then [] else runtimeImports own := by
  unfold startImports startPaths
  split
  · rfl
  · exact entries_addAll_runtimePaths own

theorem path_mem_runtimePaths (he : e ∈ runtimeImports own) : e.path ∈ runtimePaths := by
  rcases List.mem_cons.mp (List.mem_of_mem_filter he) with rfl | he
  · decide
  · rw [List.mem_singleton.mp he]
    decide

/-- What is not settled before the first line is no package of the runtime. -/
theorem not_mem_runtimePaths {rest : List Import} (hne : ss ≠ [])
    (hrest : (startImports own ss).entries ++ rest = (seriesImports own ss).entries)
    (he : e ∈ rest) : e.path ∉ runtimePaths := by
  intro hruntime
  have hvalid := valid_seriesImports own ss
  have hmem : e ∈ (seriesImports own ss).entries := hrest ▸ List.mem_append_right _ he
  have hown : e.path ≠ own.importPath := by
    have hforeign := hvalid.foreign e hmem
    rwa [seriesImports, Imports.ownPath_addAll] at hforeign
  have hsettled := Imports.settled_addAll hruntime (Imports.ofPackage own)
  have hstart : e.path ∈ (startImports own ss).entries.map (·.path) := by
    rw [startImports, startPaths_of_ne_nil hne, Imports.mem_paths_iff]
    refine hsettled.resolve_left ?_
    rwa [Imports.ownPath_addAll]
  have hpaths := hvalid.paths
  rw [← hrest, List.map_append] at hpaths
  exact List.disjoint_of_nodup_append hpaths hstart (List.mem_map_of_mem he)

/-- The runtime's packages come first, and the other imports are the rest. -/
theorem entries_seriesImports (own : Package) (ss : List Service) :
    (seriesImports own ss).entries =
      (startImports own ss).entries ++ messageImports (seriesImports own ss) := by
  by_cases hne : ss = []
  · rw [hne]
    rfl
  · obtain ⟨rest, hrest⟩ := Imports.entries_prefix_addAll (linePaths (ss.flatMap stubLines))
      (startImports own ss)
    rw [← seriesImports_eq] at hrest
    have hstart : (startImports own ss).entries.filter (·.path ∉ runtimePaths) = [] := by
      rw [entries_startImports, if_neg hne]
      exact List.filter_eq_nil_iff.mpr fun e he => by simpa using path_mem_runtimePaths he
    have hlater : rest.filter (·.path ∉ runtimePaths) = rest :=
      List.filter_eq_self.mpr fun e he => by simpa using not_mem_runtimePaths hne hrest he
    rw [messageImports, ← hrest, List.filter_append, hstart, hlater, List.nil_append]

theorem mem_messageImports_iff : e ∈ messageImports (seriesImports own ss) ↔
    e ∈ (seriesImports own ss).entries ∧ e.path ∉ runtimePaths := by
  rw [messageImports, List.mem_filter, decide_eq_true_eq]

theorem mem_linePaths_iff (hp : p ∉ runtimePaths) :
    p ∈ linePaths (ss.flatMap stubLines) ↔ ∃ s ∈ ss, ∃ i, IsMessage s i ∧ i.importPath = p := by
  have hseries : linePaths (ss.flatMap stubLines) = ss.flatMap fun s => linePaths (stubLines s) :=
    List.flatMap_assoc
  rw [hseries, List.mem_flatMap]
  simp only [linePaths_stubLines, mem_programPaths_iff hp]

theorem mem_paths_messageImports : p ∈ (messageImports (seriesImports own ss)).map (·.path) ↔
    p ∈ (seriesImports own ss).entries.map (·.path) ∧ p ∉ runtimePaths := by
  simp only [List.mem_map, mem_messageImports_iff]
  constructor
  · rintro ⟨e, ⟨he, hruntime⟩, rfl⟩
    exact ⟨⟨e, he, rfl⟩, hruntime⟩
  · rintro ⟨⟨e, he, rfl⟩, hruntime⟩
    exact ⟨e, ⟨he, hruntime⟩, rfl⟩

/-- Exactly the packages of messages get an alias for the text. -/
theorem mem_paths_messageImports_iff :
    p ∈ (messageImports (seriesImports own ss)).map (·.path) ↔
      (∃ s ∈ ss, ∃ i, IsMessage s i ∧ i.importPath = p) ∧ p ≠ own.importPath ∧
        p ∉ runtimePaths := by
  rw [mem_paths_messageImports, ← and_assoc]
  refine and_congr_left fun hruntime => ?_
  have hown : (startImports own ss).ownPath = own.importPath := Imports.ownPath_addAll _ _
  have hstart : p ∉ (startImports own ss).entries.map (·.path) := fun hmem =>
    hruntime (startPaths_subset ss (Imports.mem_of_mem_paths hmem))
  rw [seriesImports_eq, Imports.mem_paths_addAll, or_iff_right hstart, hown,
    mem_linePaths_iff hruntime]

/-! ## The order of the text -/

/-- The packages of messages got their aliases in the order of their first mentions. -/
theorem idxOf_messageImports_increasing (own : Package) (ss : List Service) :
    (messageImports (seriesImports own ss)).Pairwise fun e e' =>
      (linePaths (ss.flatMap stubLines)).idxOf e.path <
        (linePaths (ss.flatMap stubLines)).idxOf e'.path := by
  have hall := Imports.idxOf_increasing own (startPaths ss ++ linePaths (ss.flatMap stubLines))
  rw [Imports.addAll_append, ← startImports, ← seriesImports_eq] at hall
  refine (hall.filter (·.path ∉ runtimePaths)).imp_of_mem fun he he' hlt => ?_
  have hstart : ∀ e ∈ messageImports (seriesImports own ss), e.path ∉ startPaths ss :=
    fun e he hmem => (mem_messageImports_iff.mp he).2 (startPaths_subset ss hmem)
  rw [List.idxOf_append_of_notMem (hstart _ he), List.idxOf_append_of_notMem (hstart _ he')] at hlt
  exact Nat.lt_of_add_lt_add_left hlt

theorem path_mem_seriesWords (he : e ∈ messageImports (seriesImports own ss)) (imports : Imports) :
    e.path ∈ (seriesWords imports ss).paths := by
  obtain ⟨hmessage, -, hruntime⟩ := mem_paths_messageImports_iff.mp (List.mem_map_of_mem he)
  rw [seriesWords, paths_textWords]
  exact (mem_linePaths_iff hruntime).mpr hmessage

/-- The order of their aliases is that in which the text names them first. -/
theorem messageImports_ordered (own : Package) (ss : List Service) :
    (messageImports (seriesImports own ss)).Pairwise fun e e' => ∃ m n,
      FirstQualified (seriesImports own ss) (seriesWords (seriesImports own ss) ss) e m ∧
        FirstQualified (seriesImports own ss) (seriesWords (seriesImports own ss) ss) e' n ∧
          m < n := by
  refine (idxOf_messageImports_increasing own ss).imp_of_mem fun he he' hlt => ?_
  refine exists_firstQualified_lt (valid_seriesImports own ss) (mem_messageImports_iff.mp he).1
    (mem_messageImports_iff.mp he').1 (path_mem_seriesWords he _) (path_mem_seriesWords he' _) ?_
  rwa [seriesWords, paths_textWords]

/-- How the imports of a file of the package `own` have come about that got the stubs of services
`ss`, with the text `text`, and has the imports `after` since. -/
structure AliasedInOrder (own : Package) (ss : List Service) (text : String) (after : Imports) :
    Prop where
  /-- The runtime's packages come first, under their own names, and then those of messages. -/
  runtimeFirst : after.entries =
    (if ss = [] then [] else runtimeImports own) ++ messageImports after
  /-- These are all packages of messages that are neither the file's own nor the runtime's. -/
  messages : ∀ p, p ∈ (messageImports after).map (·.path) ↔
    (∃ s ∈ ss, ∃ i, IsMessage s i ∧ i.importPath = p) ∧ p ≠ own.importPath ∧ p ∉ runtimePaths
  /-- The text is that of the words of the stubs. -/
  words : text = (seriesWords after ss).spell after
  /-- It is what one pass over the lines writes, which mentions each package where it names it. -/
  onePass : writeLines (startImports own ss) (ss.flatMap stubLines) = (text, after)
  /-- The text names every package of messages. -/
  named : ∀ e ∈ messageImports after, ∃ n, FirstQualified after (seriesWords after ss) e n
  /-- Of two of them, the one with the earlier alias is named further to the front. -/
  ordered : (messageImports after).Pairwise fun e e' => ∃ m n,
    FirstQualified after (seriesWords after ss) e m ∧
      FirstQualified after (seriesWords after ss) e' n ∧ m < n
  /-- If both suggest one name, the earlier one has the smaller number. -/
  smaller : (messageImports after).Pairwise fun e e' =>
    suggestedName e.path = suggestedName e'.path →
      ∃ m n, e.name = Imports.numbered (suggestedName e.path) m ∧
        e'.name = Imports.numbered (suggestedName e'.path) n ∧ m < n
  /-- Every alias is the first free one of its package's names after the aliases before it. -/
  firstFree : after.FirstFree
  /-- The imports that the first of the services leave are the first of these. -/
  grows : ∀ first rest, ss = first ++ rest → ∃ texts imports,
    generateAll? (.ofPackage own) first = some (texts, imports) ∧ imports.entries <+: after.entries

theorem join_linesText (imports : Imports) (ss : List Service) :
    String.join (ss.map fun s => linesText imports (stubLines s)) =
      linesText imports (ss.flatMap stubLines) := by
  induction ss with
  | nil => rfl
  | cons s ss ih =>
    rw [List.map_cons, List.flatMap_cons, linesText_append, ← ih]
    simp only [String.join_cons]

/-- **Alias order.** In a file of any package, with the stubs of any services, the packages of the
runtime have the first aliases, whatever the packages of messages are called; these have theirs in
the order in which the text names them first, so that of two that suggest one name the one that is
named further to the front has the smaller number. -/
theorem generateAll?_aliased_in_order (own : Package) (ss : List Service) :
    ∃ texts after, generateAll? (.ofPackage own) ss = some (texts, after) ∧
      AliasedInOrder own ss (String.join texts) after := by
  have hvalid := valid_seriesImports own ss
  have hfree : (seriesImports own ss).FirstFree := (Imports.firstFree_ofPackage own).addAll _
  have htext := join_linesText (seriesImports own ss) ss
  refine ⟨_, seriesImports own ss, generateAll?_eq ss (.ofPackage own), ?_⟩
  constructor
  · rw [← entries_startImports]
    exact entries_seriesImports own ss
  · exact fun p => mem_paths_messageImports_iff
  · rw [seriesWords, spell_textWords]
    exact htext
  · rw [writeLines_eq, ← seriesImports_eq]
    exact congrArg (·, seriesImports own ss) htext.symm
  · exact fun e he => exists_firstQualified hvalid (mem_messageImports_iff.mp he).1
      (path_mem_seriesWords he _)
  · exact messageImports_ordered own ss
  · exact hfree.numbers_increasing.filter _
  · exact hfree
  · rintro first rest rfl
    have hmentions : mentionedByAll (first ++ rest) = mentionedByAll first ++ mentionedByAll rest :=
      List.flatMap_append
    refine ⟨_, _, generateAll?_eq first (.ofPackage own), ?_⟩
    rw [seriesImports, hmentions, Imports.addAll_append]
    exact Imports.entries_prefix_addAll _ _

/-- The server's handle on a stream of both sides sends responses before it receives requests. -/
example :
    messageImports (seriesImports ⟨"example.com/chat", "chat"⟩
      [⟨"chat.v1.Chat", "Chat",
        [⟨"Talk", "Talk", ⟨"example.com/post", "Said"⟩, ⟨"example.org/post", "Heard"⟩,
          true, true⟩]⟩]) =
      [⟨"example.org/post", "post"⟩, ⟨"example.com/post", "post1"⟩] := by
  decide +kernel

end GoStubs.Stub
