import GoStubs.Proofs.Go.Recorded
/-!
# The order of aliases

A file gives a package its alias when it mentions the package for the first time, and the new entry
goes behind those that are there. So the imports stand in the order of first mention, and since
the alias is the first free one at that moment, the earlier of two packages that suggest the same
name gets the smaller number. Both are invariants of the mentions, and hold of the imports of a file
that had none at first.

* `Imports.idxOf_increasing`: the imports stand in the order of first mention.
* `Imports.FirstFree`: every alias is the first free one after those before it.
* `Imports.numbers_increasing`: what this means for packages that suggest one name.
* `FirstQualified`: where a text mentions a package first.
* `exists_firstQualified_lt`: the order of first mention is that of the text.
-/

namespace GoStubs.Go

namespace Imports

variable {imports : Imports} {p q : String}

/-! ## Growth -/

/-- Mentions put new imports behind those that are there. -/
theorem entries_prefix_addAll (ps : List String) :
    ∀ imports : Imports, imports.entries <+: (imports.addAll ps).entries := by
  induction ps with
  | nil => exact fun imports => List.prefix_rfl
  | cons p ps ih =>
    intro imports
    have hadd : imports.entries <+: (imports.add p).entries := by
      by_cases hp : imports.Settled p
      · rw [add_of_settled hp]
      · rw [add_of_not_settled hp]
        exact List.prefix_append _ _
    exact hadd.trans (ih _)

/-- Only what has been mentioned is imported. -/
theorem mem_of_mem_paths {own : Package} {ps : List String}
    (h : p ∈ ((ofPackage own).addAll ps).entries.map (·.path)) : p ∈ ps := by
  rcases (mem_paths_addAll ps).mp h with h | h
  · cases h
  · exact h.1

/-! ## First mentions -/

/-- The imports of a file stand in the order of first mention. -/
theorem idxOf_increasing (own : Package) (ps : List String) :
    ((ofPackage own).addAll ps).entries.Pairwise fun e e' =>
      ps.idxOf e.path < ps.idxOf e'.path := by
  induction ps using List.reverseRecOn with
  | nil => exact List.Pairwise.nil
  | append_singleton ps p ih =>
    -- The paths that are there have been mentioned, and one more mention comes after all of these.
    have hkept : ∀ e ∈ ((ofPackage own).addAll ps).entries,
        (ps ++ [p]).idxOf e.path = ps.idxOf e.path := fun e he =>
      List.idxOf_append_of_mem (mem_of_mem_paths (List.mem_map_of_mem he))
    have hold : ((ofPackage own).addAll ps).entries.Pairwise fun e e' =>
        (ps ++ [p]).idxOf e.path < (ps ++ [p]).idxOf e'.path :=
      ih.imp_of_mem fun he he' hlt => by rwa [hkept _ he, hkept _ he']
    rw [addAll_append, addAll_cons, addAll_nil]
    by_cases hp : ((ofPackage own).addAll ps).Settled p
    · rwa [add_of_settled hp]
    · rw [add_of_not_settled hp, List.pairwise_append]
      refine ⟨hold, List.pairwise_singleton _ _, fun e he e' he' => ?_⟩
      rw [List.mem_singleton.mp he', hkept e he,
        List.idxOf_append_of_notMem fun hmem => hp (settled_addAll hmem _)]
      have hlt := List.idxOf_lt_length_of_mem (mem_of_mem_paths (List.mem_map_of_mem he))
      omega

/-! ## First free names -/

/-- Whether every alias is the first free one of its package's names after the aliases before it. -/
def FirstFree (imports : Imports) : Prop :=
  ∀ before e after, imports.entries = before ++ e :: after →
    e.name = firstFree (suggestedName e.path) (predeclared ++ before.map (·.name))

/-- The step lemma: a new alias is the first free one. -/
theorem FirstFree.add (h : imports.FirstFree) (p : String) : (imports.add p).FirstFree := by
  by_cases hp : imports.Settled p
  · rwa [add_of_settled hp]
  · rw [add_of_not_settled hp]
    intro before e after hsplit
    cases after using List.reverseRecOn with
    | nil =>
      obtain ⟨rfl, he⟩ := List.append_inj' hsplit rfl
      rw [← List.singleton_inj.mp he]
      rfl
    | append_singleton after e' =>
      rw [← List.cons_append, ← List.append_assoc] at hsplit
      exact h before e after (List.append_inj' hsplit rfl).1

/-- The run lemma. -/
theorem FirstFree.addAll (ps : List String) :
    ∀ {imports : Imports}, imports.FirstFree → (imports.addAll ps).FirstFree := by
  induction ps with
  | nil => exact id
  | cons p ps ih => exact fun h => ih (h.add p)

theorem firstFree_ofPackage (own : Package) : (ofPackage own).FirstFree := by
  intro before e after hsplit
  simp [ofPackage] at hsplit

/-- Where more names are taken, the one that was free first among them, the first free one has a
greater number. -/
theorem firstFree_lt {base : String} {taken taken' : List String} (hsub : taken ⊆ taken')
    (hmem : firstFree base taken ∈ taken') :
    ∃ m n, firstFree base taken = numbered base m ∧ firstFree base taken' = numbered base n ∧
      m < n := by
  obtain ⟨m, hm, -, hbefore⟩ := firstFree_spec base taken
  obtain ⟨n, hn, hfree, -⟩ := firstFree_spec base taken'
  refine ⟨m, n, hm, hn, ?_⟩
  by_contra hle
  rcases Nat.lt_or_eq_of_le (Nat.not_lt.mp hle) with hlt | rfl
  · exact hfree (hsub (hbefore n hlt))
  · exact hfree (hm ▸ hmem)

/-- Of two packages that suggest one name, the one that is imported first has the smaller number. -/
theorem FirstFree.numbers_increasing (h : imports.FirstFree) :
    imports.entries.Pairwise fun e e' => suggestedName e.path = suggestedName e'.path →
      ∃ m n, e.name = numbered (suggestedName e.path) m ∧
        e'.name = numbered (suggestedName e'.path) n ∧ m < n := by
  suffices hprefix : ∀ es, es <+: imports.entries → es.Pairwise fun e e' =>
      suggestedName e.path = suggestedName e'.path →
        ∃ m n, e.name = numbered (suggestedName e.path) m ∧
          e'.name = numbered (suggestedName e'.path) n ∧ m < n from hprefix _ List.prefix_rfl
  intro es
  induction es using List.reverseRecOn with
  | nil => exact fun _ => List.Pairwise.nil
  | append_singleton es e' ih =>
    rintro ⟨after, hsplit⟩
    have hes : es <+: imports.entries := ⟨e' :: after, by simpa using hsplit⟩
    rw [List.pairwise_append]
    refine ⟨ih hes, List.pairwise_singleton _ _, fun e he x hx => ?_⟩
    obtain rfl := List.mem_singleton.mp hx
    intro hname
    obtain ⟨before, mid, rfl⟩ := List.append_of_mem he
    have hfirst := h before e (mid ++ x :: after) (by simpa using hsplit.symm)
    have hsecond := h (before ++ e :: mid) x after (by simpa using hsplit.symm)
    rw [hfirst, hsecond, ← hname]
    refine firstFree_lt ?_ ?_
    · refine List.append_subset.mpr ⟨List.subset_append_left _ _, ?_⟩
      simp only [List.map_append]
      exact List.subset_append_of_subset_right _ (List.subset_append_left _ _)
    · rw [← hfirst]
      simp

end Imports

/-! ## Texts as words -/

/-- What stands on a line before its words: nothing on a line that is empty. -/
def Line.indent (imports : Imports) (l : Line) : String :=
  if l.words.spell imports = "" then "" else Writer.margin "\t" l.depth

/-- The words of a text of lines, the blanks in front of the lines and the line ends included. -/
def textWords (imports : Imports) (ls : List Line) : Phrase :=
  ls.flatMap fun l => .text (l.indent imports) :: l.words ++ [.text "\n"]

theorem paths_append (p q : Phrase) : Phrase.paths (p ++ q) = p.paths ++ q.paths := by
  rw [Phrase.paths, idents_append, List.map_append]
  rfl

@[simp] theorem paths_textWords (imports : Imports) (ls : List Line) :
    (textWords imports ls).paths = linePaths ls := by
  induction ls with
  | nil => rfl
  | cons l ls ih =>
    have hcons : textWords imports (l :: ls) =
        .text (l.indent imports) :: l.words ++ (.text "\n" :: textWords imports ls) := by
      simp [textWords]
    rw [hcons, paths_append, paths_text, paths_text, ih]
    rfl

/-- The text of lines is that of its words. -/
theorem spell_textWords (imports : Imports) (ls : List Line) :
    (textWords imports ls).spell imports = linesText imports ls := by
  induction ls with
  | nil => rfl
  | cons l ls ih =>
    have hline : l.indent imports ++ l.words.spell imports ++ "\n" = l.text imports := by
      unfold Line.indent Line.text lineText
      split
      · next hempty => rw [hempty]; rfl
      · rfl
    have hcons : textWords imports (l :: ls) =
        .text (l.indent imports) :: (l.words ++ .text "\n" :: textWords imports ls) := by
      simp [textWords]
    rw [hcons, spell_cons, spell_append, spell_cons, ih, linesText_cons, ← hline]
    simp only [Word.spell, String.append_assoc]

/-! ## First mentions in a text -/

/-- Whether the first identifier of an imported package stands in a text behind `n` characters, and
the alias of the package before it. -/
def FirstQualified (imports : Imports) (words : Phrase) (e : Import) (n : Nat) : Prop :=
  ∃ (before : Phrase) (i : Ident) (after : Phrase), words = before ++ .ident i :: after ∧
    i.importPath = e.path ∧ e.path ∉ before.paths ∧ (before.spell imports).length = n ∧
    imports.spell i = e.name ++ "." ++ i.name

section

variable {imports : Imports} {words : Phrase} {p : String} {e e' : Import}

theorem exists_first_ident (hp : p ∈ words.paths) :
    ∃ (before : Phrase) (i : Ident) (after : Phrase), words = before ++ .ident i :: after ∧
      i.importPath = p ∧ p ∉ before.paths := by
  induction words with
  | nil => cases hp
  | cons w words ih =>
    cases w with
    | text s =>
      obtain ⟨before, i, after, rfl, hi, hbefore⟩ := ih hp
      exact ⟨.text s :: before, i, after, rfl, hi, hbefore⟩
    | ident j =>
      by_cases hj : j.importPath = p
      · exact ⟨[], j, words, rfl, hj, List.not_mem_nil⟩
      · obtain ⟨before, i, after, rfl, hi, hbefore⟩ :=
          ih ((List.mem_cons.mp hp).resolve_left (Ne.symm hj))
        refine ⟨.ident j :: before, i, after, rfl, hi, ?_⟩
        rw [paths_ident, List.mem_cons, not_or]
        exact ⟨Ne.symm hj, hbefore⟩

theorem Imports.Valid.spell_of_mem (h : imports.Valid) (he : e ∈ imports.entries) {i : Ident}
    (hi : i.importPath = e.path) : imports.spell i = e.name ++ "." ++ i.name := by
  refine spell_of_aliasOf? ?_
  rw [hi]
  exact h.aliasOf?_eq_some_iff.mpr he

theorem exists_firstQualified (h : imports.Valid) (he : e ∈ imports.entries)
    (hp : e.path ∈ words.paths) : ∃ n, FirstQualified imports words e n := by
  obtain ⟨before, i, after, hwords, hi, hbefore⟩ := exists_first_ident hp
  exact ⟨_, before, i, after, hwords, hi, hbefore, rfl, h.spell_of_mem he hi⟩

/-- The package that comes first in the list of mentions comes first in the text. -/
theorem exists_firstQualified_lt (h : imports.Valid) (he : e ∈ imports.entries)
    (he' : e' ∈ imports.entries) (hp : e.path ∈ words.paths) (hp' : e'.path ∈ words.paths)
    (hlt : words.paths.idxOf e.path < words.paths.idxOf e'.path) :
    ∃ m n, FirstQualified imports words e m ∧ FirstQualified imports words e' n ∧ m < n := by
  obtain ⟨before, i, rest, rfl, hi, hbefore⟩ := exists_first_ident hp
  -- The other package is not mentioned as far as that, so its first mention is in the rest.
  rw [paths_append, paths_ident, hi] at hp' hlt
  rw [List.idxOf_append_of_notMem hbefore, List.idxOf_cons_self, Nat.add_zero] at hlt
  have hbefore' : e'.path ∉ before.paths := by
    intro hmem
    rw [List.idxOf_append_of_mem hmem] at hlt
    exact absurd (List.idxOf_lt_length_of_mem hmem) (Nat.not_lt.mpr (Nat.le_of_lt hlt))
  have hne : e'.path ≠ e.path := by
    intro heq
    rw [heq, List.idxOf_append_of_notMem hbefore, List.idxOf_cons_self, Nat.add_zero] at hlt
    exact Nat.lt_irrefl _ hlt
  have hrest : e'.path ∈ rest.paths :=
    (List.mem_cons.mp ((List.mem_append.mp hp').resolve_left hbefore')).resolve_left hne
  obtain ⟨mid, j, after, rfl, hj, hmid⟩ := exists_first_ident hrest
  have hspell := h.spell_of_mem he hi
  refine ⟨_, _, ⟨before, i, _, rfl, hi, hbefore, rfl, hspell⟩,
    ⟨before ++ .ident i :: mid, j, after, by simp, hj, ?_, rfl, h.spell_of_mem he' hj⟩, ?_⟩
  · rw [paths_append, paths_ident, hi, List.mem_append, List.mem_cons]
    tauto
  · have hdot : ".".length = 1 := rfl
    rw [spell_append, spell_cons, Word.spell, hspell]
    simp only [String.length_append]
    omega

end

end GoStubs.Go
