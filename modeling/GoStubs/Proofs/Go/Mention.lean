import GoStubs.Proofs.Go.Lines
/-!
# Names spelled where they are mentioned

A file may be written in one pass, which qualifies every name when it comes to it and lets the
imports grow on the way, or in two: first all names get their aliases, then everything is spelled
under the imports that this leaves. Both passes write the same text, since a path that has been
mentioned keeps its spelling whatever is mentioned later.

* `Imports.Settled`: the paths whose spelling no later mention changes.
* `writeLines`: the one pass.
* `writeLines_eq`: it writes the text of the two.
-/

namespace GoStubs.Go

open GoStubs.Writer

namespace Imports

variable {imports : Imports} {p q : String}

/-! ## Settled paths -/

/-- Whether it is decided how the identifiers of a path are spelled: the path is the file's own,
or it has an alias. -/
def Settled (imports : Imports) (path : String) : Prop :=
  path = imports.ownPath ∨ (imports.aliasOf? path).isSome

theorem add_of_settled (h : imports.Settled p) : imports.add p = imports := by
  unfold add
  exact if_pos (by simpa [Settled] using h)

theorem add_of_not_settled (h : ¬ imports.Settled p) :
    imports.add p = { imports with entries := imports.entries ++ [⟨p, imports.freshAlias p⟩] } := by
  unfold add
  exact if_neg (by simpa [Settled] using h)

@[simp] theorem ownPath_add (imports : Imports) (q : String) :
    (imports.add q).ownPath = imports.ownPath := by
  unfold add
  split <;> rfl

/-- A mention changes the alias of no settled path. -/
theorem aliasOf?_add (h : imports.Settled p) (q : String) :
    (imports.add q).aliasOf? p = imports.aliasOf? p := by
  by_cases hq : imports.Settled q
  · rw [add_of_settled hq]
  · -- A new entry goes behind all others, and it is for another path.
    have hne : q ≠ p := fun hqp => hq (hqp ▸ h)
    rw [add_of_not_settled hq]
    simp [aliasOf?, List.find?_append, hne]

theorem Settled.add (h : imports.Settled p) (q : String) : (imports.add q).Settled p := by
  unfold Settled
  rw [ownPath_add, aliasOf?_add h]
  exact h

/-- A mention settles its path. -/
theorem settled_add (imports : Imports) (p : String) : (imports.add p).Settled p := by
  by_cases h : imports.Settled p
  · rwa [add_of_settled h]
  · refine Or.inr ?_
    rw [add_of_not_settled h]
    simp [aliasOf?, List.find?_append]

@[simp] theorem addAll_nil (imports : Imports) : imports.addAll [] = imports := rfl

@[simp] theorem addAll_cons (imports : Imports) (p : String) (ps : List String) :
    imports.addAll (p :: ps) = (imports.add p).addAll ps := rfl

theorem addAll_append (imports : Imports) (ps qs : List String) :
    imports.addAll (ps ++ qs) = (imports.addAll ps).addAll qs := List.foldl_append

/-- Mentions of settled paths leave the imports alone. -/
theorem addAll_of_settled {ps : List String} (h : ∀ p ∈ ps, imports.Settled p) :
    imports.addAll ps = imports := by
  induction ps with
  | nil => rfl
  | cons p ps ih =>
    rw [addAll_cons, add_of_settled (h p List.mem_cons_self),
      ih fun q hq => h q (List.mem_cons_of_mem _ hq)]

theorem Settled.addAll (qs : List String) :
    ∀ {imports : Imports}, imports.Settled p → (imports.addAll qs).Settled p := by
  induction qs with
  | nil => exact id
  | cons q qs ih => exact fun h => ih (h.add q)

theorem settled_addAll {ps : List String} (hp : p ∈ ps) :
    ∀ imports : Imports, (imports.addAll ps).Settled p := by
  induction ps with
  | nil => cases hp
  | cons q qs ih =>
    intro imports
    rcases List.mem_cons.mp hp with rfl | hp
    · exact (settled_add imports p).addAll qs
    · exact ih hp _

theorem aliasOf?_addAll (qs : List String) :
    ∀ {imports : Imports}, imports.Settled p →
      (imports.addAll qs).aliasOf? p = imports.aliasOf? p := by
  induction qs with
  | nil => exact fun _ => rfl
  | cons q qs ih =>
    intro imports h
    rw [addAll_cons, ih (h.add q), aliasOf?_add h]

/-- Later mentions leave the spelling of an identifier with a settled path as it is. -/
theorem spell_addAll {i : Ident} (h : imports.Settled i.importPath) (qs : List String) :
    (imports.addAll qs).spell i = imports.spell i := by
  unfold spell
  rw [aliasOf?_addAll qs h]

end Imports

/-! ## Mentioned paths -/

/-- The import paths that a phrase mentions, in their order. -/
def Phrase.paths (p : Phrase) : List String := p.idents.map (·.importPath)

/-- The import paths that lines mention, in their order. -/
def linePaths (ls : List Line) : List String := ls.flatMap (·.words.paths)

@[simp] theorem paths_text (s : String) (p : Phrase) : Phrase.paths (.text s :: p) = p.paths := rfl

@[simp] theorem paths_ident (i : Ident) (p : Phrase) :
    Phrase.paths (.ident i :: p) = i.importPath :: p.paths := rfl

@[simp] theorem idents_nil : Phrase.idents [] = [] := rfl

@[simp] theorem idents_text (s : String) (p : Phrase) : Phrase.idents (.text s :: p) = p.idents :=
  rfl

theorem idents_append (p q : Phrase) : Phrase.idents (p ++ q) = p.idents ++ q.idents :=
  List.filterMap_append

/-- The identifiers of whole lines, in the order of the lines, are those of the program. -/
theorem programIdents_eq {p : Program Phrase} (hp : WholeLines p) :
    ∀ depth, programIdents p = (programLines depth p).flatMap (·.words.idents) := by
  induction p with
  | done => exact fun _ => rfl
  | act a rest ih =>
    intro depth
    cases a with
    | writeln l => simp [programIdents, actionIdents, programLines, ← ih hp depth]
    | blankLine => simp [programIdents, actionIdents, programLines, ← ih hp depth]
    | _ => exact hp.elim
  | nest f body rest ihb ih =>
    intro depth
    have hb := ihb hp.1 (depth + 1)
    have h := ih hp.2 depth
    cases f <;> simp [programIdents, programLines, idents_append, ← hb, ← h]

/-- A phrase of settled paths is spelled as it was after any further mentions. -/
theorem spell_addAll_of_settled {imports : Imports} {p : Phrase}
    (h : ∀ path ∈ p.paths, imports.Settled path) (qs : List String) :
    p.spell (imports.addAll qs) = p.spell imports := by
  induction p with
  | nil => rfl
  | cons w p ih =>
    rw [spell_cons, spell_cons]
    cases w with
    | text s => rw [ih h]; rfl
    | ident i =>
      rw [ih fun path hpath => h path (List.mem_cons_of_mem _ hpath)]
      simp only [Word.spell, Imports.spell_addAll (h _ (List.mem_cons_self ..))]

/-- So are lines of settled paths. -/
theorem linesText_addAll {imports : Imports} {ls : List Line}
    (h : ∀ path ∈ linePaths ls, imports.Settled path) (qs : List String) :
    linesText (imports.addAll qs) ls = linesText imports ls := by
  induction ls with
  | nil => rfl
  | cons l ls ih =>
    have hpaths : linePaths (l :: ls) = l.words.paths ++ linePaths ls := List.flatMap_cons
    rw [hpaths] at h
    have hl := spell_addAll_of_settled (fun path hp => h path (List.mem_append_left _ hp)) qs
    have hls := ih fun path hp => h path (List.mem_append_right _ hp)
    rw [linesText_cons, linesText_cons, hls, Line.text, Line.text, hl]

/-! ## Writing in one pass -/

/-- Writes a phrase, each identifier as the imports qualify it when the writer comes to it. -/
def writePhrase (imports : Imports) : Phrase → String × Imports
  | [] => ("", imports)
  | .text s :: p =>
    let (rest, after) := writePhrase imports p
    (s ++ rest, after)
  | .ident i :: p =>
    let (name, imports) := imports.qualify i
    let (rest, after) := writePhrase imports p
    (name ++ rest, after)

/-- Writes lines, one after the other. -/
def writeLines (imports : Imports) : List Line → String × Imports
  | [] => ("", imports)
  | l :: ls =>
    let (text, imports) := writePhrase imports l.words
    let (rest, after) := writeLines imports ls
    (lineText l.depth text ++ rest, after)

/-- One pass over a phrase writes it as it is spelled at the end, and mentions its paths. -/
theorem writePhrase_eq (p : Phrase) :
    ∀ imports : Imports, writePhrase imports p =
      (p.spell (imports.addAll p.paths), imports.addAll p.paths) := by
  induction p with
  | nil => exact fun _ => rfl
  | cons w p ih =>
    intro imports
    cases w with
    | text s => simp [writePhrase, ih, Word.spell]
    | ident i =>
      have hi := Imports.spell_addAll (Imports.settled_add imports i.importPath) (Phrase.paths p)
      simp [writePhrase, Imports.qualify, ih, Word.spell, hi]

/-- One pass over lines writes them as they are spelled at the end, and mentions their paths. -/
theorem writeLines_eq (ls : List Line) :
    ∀ imports : Imports, writeLines imports ls =
      (linesText (imports.addAll (linePaths ls)) ls, imports.addAll (linePaths ls)) := by
  induction ls with
  | nil => exact fun _ => rfl
  | cons l ls ih =>
    intro imports
    have hpaths : linePaths (l :: ls) = l.words.paths ++ linePaths ls := List.flatMap_cons
    -- The later lines mention more paths, but those of the first line are settled by then.
    have hl := spell_addAll_of_settled (p := l.words)
      (fun path hpath => Imports.settled_addAll hpath imports) (linePaths ls)
    rw [writeLines, writePhrase_eq]
    simp only [ih, hpaths, Imports.addAll_append, linesText_cons, Line.text, hl]

end GoStubs.Go
