import GoStubs.Go.Printer
/-!
# Printed programs as lines

A printed program is a list of lines, each at a depth: the writer's state, its line starts and
its level are only the way in which these lines come out. Here the lines are read off the program,
and the writer is shown to deliver exactly them.

* `programLines`: the lines of a program, names unspelled.
* `WholeLines`: the programs that are made of lines and frames alone.
* `render?_map_spell`: the text of such a program is the text of its lines.
-/

namespace GoStubs.Go

open GoStubs.Writer

/-! ## Lines -/

/-- A line of code whose names are not spelled yet. -/
structure Line where
  /-- How deep the line stands. -/
  depth : Nat
  /-- What stands on it. -/
  words : Phrase
  deriving DecidableEq, Repr

/-- The text of a line at a depth. An empty line is not indented. -/
def lineText (depth : Nat) (text : String) : String :=
  if text = "" then "\n" else margin "\t" depth ++ text ++ "\n"

/-- The text of a line in a file with the given imports. -/
def Line.text (imports : Imports) (l : Line) : String :=
  lineText l.depth (l.words.spell imports)

/-- The text of lines in a file with the given imports. -/
def linesText (imports : Imports) (ls : List Line) : String :=
  String.join (ls.map (Line.text imports))

/-- The lines of a program that starts at a depth. -/
def programLines (depth : Nat) : Program Phrase → List Line
  | .done => []
  | .act (.writeln p) rest => ⟨depth, p⟩ :: programLines depth rest
  | .act .blankLine rest => ⟨depth, []⟩ :: programLines depth rest
  | .act _ rest => programLines depth rest
  | .nest (.block header) body rest =>
    ⟨depth, header ++ [.text " \x7b"]⟩ ::
      (programLines (depth + 1) body ++ ⟨depth, [.text "\x7d"]⟩ :: programLines depth rest)
  | .nest (.blockWith opener closer) body rest =>
    ⟨depth, opener⟩ ::
      (programLines (depth + 1) body ++ ⟨depth, closer⟩ :: programLines depth rest)
  | .nest .indented body rest => programLines (depth + 1) body ++ programLines depth rest

@[simp] theorem linesText_nil (imports : Imports) : linesText imports [] = "" := rfl

@[simp] theorem linesText_cons (imports : Imports) (l : Line) (ls : List Line) :
    linesText imports (l :: ls) = l.text imports ++ linesText imports ls := by
  simp [linesText]

@[simp] theorem linesText_append (imports : Imports) (ls ms : List Line) :
    linesText imports (ls ++ ms) = linesText imports ls ++ linesText imports ms := by
  induction ls with
  | nil => simp
  | cons l ls ih => rw [List.cons_append, linesText_cons, linesText_cons, ih, String.append_assoc]

@[simp] theorem programLines_done (depth : Nat) : programLines depth .done = [] := rfl

@[simp] theorem programLines_line (depth : Nat) (p : Phrase) :
    programLines depth (.line p) = [⟨depth, p⟩] := rfl

@[simp] theorem programLines_block (depth : Nat) (header : Phrase) (body : Program Phrase) :
    programLines depth (.block header body) =
      ⟨depth, header ++ [.text " \x7b"]⟩ ::
        (programLines (depth + 1) body ++ [⟨depth, [.text "\x7d"]⟩]) := rfl

@[simp] theorem programLines_blockWith (depth : Nat) (opener closer : Phrase)
    (body : Program Phrase) :
    programLines depth (.blockWith opener closer body) =
      ⟨depth, opener⟩ :: (programLines (depth + 1) body ++ [⟨depth, closer⟩]) := rfl

theorem programLines_append (depth : Nat) (p q : Program Phrase) :
    programLines depth (p ++ q) = programLines depth p ++ programLines depth q := by
  induction p with
  | done => rfl
  | act a rest ih =>
    change programLines depth (.act a (rest ++ q)) = _
    cases a <;> simp [programLines, ih]
  | nest f body rest _ ih =>
    change programLines depth (.nest f body (rest ++ q)) = _
    cases f <;> simp [programLines, ih]

theorem programLines_concat (depth : Nat) (ps : List (Program Phrase)) :
    programLines depth (.concat ps) = ps.flatMap (programLines depth) := by
  induction ps with
  | nil => rfl
  | cons p ps ih => rw [Program.concat, programLines_append, ih, List.flatMap_cons]

/-- Nothing that a program writes stands above the depth at which the program starts. -/
theorem le_depth_of_mem_programLines {p : Program Phrase} :
    ∀ {depth : Nat} {l : Line}, l ∈ programLines depth p → depth ≤ l.depth := by
  induction p with
  | done => simp
  | act a rest ih =>
    intro depth l hl
    cases a <;> simp only [programLines, List.mem_cons] at hl
    case writeln | blankLine =>
      rcases hl with rfl | hl
      · exact Nat.le_refl _
      · exact ih hl
    all_goals exact ih hl
  | nest f body rest ihb ih =>
    intro depth l hl
    cases f <;> simp only [programLines, List.mem_cons, List.mem_append] at hl
    case indented =>
      rcases hl with hl | hl
      · exact Nat.le_of_succ_le (ihb hl)
      · exact ih hl
    all_goals
      rcases hl with rfl | hl | rfl | hl
      · exact Nat.le_refl _
      · exact Nat.le_of_succ_le (ihb hl)
      · exact Nat.le_refl _
      · exact ih hl

/-! ## Programs of whole lines -/

/-- Whether a program is made of lines and frames: it writes no part of a line, leaves no indent
behind and has no step that fails. -/
def WholeLines : Program Phrase → Prop
  | .done => True
  | .act (.writeln _) rest | .act .blankLine rest => WholeLines rest
  | .act _ _ => False
  | .nest _ body rest => WholeLines body ∧ WholeLines rest

theorem WholeLines.append {p q : Program Phrase} (hp : WholeLines p) (hq : WholeLines q) :
    WholeLines (p ++ q) := by
  induction p with
  | done => exact hq
  | act a rest ih =>
    change WholeLines (.act a (rest ++ q))
    cases a with
    | writeln | blankLine => exact ih hp
    | _ => exact hp.elim
  | nest f body rest _ ih => exact ⟨hp.1, ih hp.2⟩

theorem WholeLines.concat {ps : List (Program Phrase)} (h : ∀ p ∈ ps, WholeLines p) :
    WholeLines (.concat ps) := by
  induction ps with
  | nil => trivial
  | cons p ps ih =>
    exact (h p (List.mem_cons_self ..)).append
      (ih fun q hq => h q (List.mem_cons_of_mem _ hq))

theorem WholeLines.concat_map {α : Type} {f : α → Program Phrase} (h : ∀ a, WholeLines (f a))
    (as : List α) : WholeLines (.concat (as.map f)) := by
  refine .concat fun p hp => ?_
  obtain ⟨a, -, rfl⟩ := List.mem_map.mp hp
  exact h a

/-! ## Spelling -/

@[simp] theorem spell_nil (imports : Imports) : Phrase.spell imports [] = "" := rfl

@[simp] theorem spell_cons (imports : Imports) (w : Word) (p : Phrase) :
    Phrase.spell imports (w :: p) = w.spell imports ++ Phrase.spell imports p := by
  simp [Phrase.spell]

theorem spell_append (imports : Imports) (p q : Phrase) :
    Phrase.spell imports (p ++ q) = Phrase.spell imports p ++ Phrase.spell imports q := by
  induction p with
  | nil => simp
  | cons w p ih => rw [List.cons_append, spell_cons, spell_cons, ih, String.append_assoc]

/-! ## Writing whole lines -/

/-- A writer at the start of a line, over a sink that takes every text. -/
abbrev atLineStart (level held : Nat) : State Room := ⟨none, level, held, true⟩

/-- From the start of a line, a line is written at the current level, and the writer stands at
the start of a line again. -/
theorem writeln_lineStart (level held : Nat) (text : String) :
    writeln "\t" text (atLineStart level held) =
      ⟨lineText level text, true, atLineStart level held⟩ := by
  by_cases h : text = ""
  · subst h
    simp [writeln, write, Step.andThen, Step.pass, Step.update, newline, lineText]
  · simp [writeln, write, h, Step.andThen, Step.update, beginLine, newline, lineText]

/-- The header of a block and its brace make one line. -/
theorem opening_block_lineStart (level held : Nat) (header : String) :
    (Frame.block header).opening "\t" (atLineStart level held) =
      ⟨lineText level (header ++ " \x7b"), true, atLineStart level held⟩ := by
  by_cases h : header = ""
  · subst h
    simp [Frame.opening, writeln, write, Step.andThen, Step.pass, Step.update, beginLine, newline,
      lineText]
  · simp [Frame.opening, writeln, write, h, Step.andThen, Step.pass, Step.update, beginLine,
      newline, lineText, String.append_assoc]

/-- What a run of whole lines comes to: every step succeeds, the sink receives the text of the
lines, and the writer is where it was. -/
structure WritesLines (imports : Imports) (p : Program Phrase) (halting : Bool) (level held : Nat) :
    Prop where
  /-- No step fails. -/
  ok : ((p.map (Phrase.spell imports)).run "\t" halting (atLineStart level held)).trace.ok = true
  /-- The sink receives the lines. -/
  out : ((p.map (Phrase.spell imports)).run "\t" halting (atLineStart level held)).trace.out =
    linesText imports (programLines level p)
  /-- The state is the one before. -/
  state : ((p.map (Phrase.spell imports)).run "\t" halting (atLineStart level held)).state =
    atLineStart level held

/-- The step lemma of actions: one that writes a line goes before what writes lines. -/
theorem WritesLines.act {imports : Imports} {a : Action Phrase} {rest : Program Phrase} {l : Phrase}
    {halting : Bool} {level held : Nat}
    (ha : (a.map (Phrase.spell imports)).step "\t" (atLineStart level held) =
      ⟨lineText level (Phrase.spell imports l), true, atLineStart level held⟩)
    (hl : programLines level (.act a rest) = ⟨level, l⟩ :: programLines level rest)
    (h : WritesLines imports rest halting level held) :
    WritesLines imports (.act a rest) halting level held := by
  constructor <;> simp only [Program.map, Program.run, ha, Bool.not_true, Bool.and_false,
    Bool.false_eq_true, if_false]
  · simpa [Trace.ok] using h.ok
  · rw [Trace.out, h.out, hl, linesText_cons, Line.text]
  · exact h.state

/-- The step lemma of frames: lines before and behind a body that writes lines one level deeper. -/
theorem WritesLines.nest {imports : Imports} {f : Frame Phrase} {body rest : Program Phrase}
    {o c : String} {halting : Bool} {level held : Nat}
    (ho : (f.map (Phrase.spell imports)).opening "\t" (atLineStart level held) =
      ⟨o, true, atLineStart level held⟩)
    (hc : (f.map (Phrase.spell imports)).closing "\t" (atLineStart level held) =
      ⟨c, true, atLineStart level held⟩)
    (hl : linesText imports (programLines level (.nest f body rest)) =
      o ++ linesText imports (programLines (level + 1) body) ++ c ++
        linesText imports (programLines level rest))
    (hb : WritesLines imports body true (level + 1) held)
    (h : WritesLines imports rest halting level held) :
    WritesLines imports (.nest f body rest) halting level held := by
  have hdown : (atLineStart (level + 1) held).shallower = atLineStart level held := rfl
  constructor <;> simp only [Program.map, Program.run, ho, State.deeper, hb.ok, hb.out, hb.state,
    hdown, hc, Bool.not_true, Bool.and_false, Bool.false_eq_true, if_false, if_true]
  · simpa [Trace.ok] using h.ok
  · rw [Trace.out, h.out, hl]
  · exact h.state

/-- Whole lines are written as the lines that they are, whatever the level and whether or not the
program stands in a frame. -/
theorem WholeLines.writesLines (imports : Imports) {p : Program Phrase} (hp : WholeLines p) :
    ∀ (halting : Bool) (level held : Nat), WritesLines imports p halting level held := by
  induction p with
  | done => intro halting level held; exact ⟨rfl, rfl, rfl⟩
  | act a rest ih =>
    intro halting level held
    cases a with
    | writeln l =>
      exact .act (l := l) (writeln_lineStart level held _) rfl (ih hp halting level held)
    | blankLine => exact .act (l := []) rfl rfl (ih hp halting level held)
    | _ => exact hp.elim
  | nest f body rest ihb ih =>
    intro halting level held
    have hb := ihb hp.1 true (level + 1) held
    have h := ih hp.2 halting level held
    -- A body stops at its first failure, whether or not the program around it does.
    cases f with
    | block header =>
      refine .nest (opening_block_lineStart level held _) (writeln_lineStart level held _) ?_ hb h
      simp [programLines, Line.text, spell_append, Word.spell, String.append_assoc]
    | blockWith opener closer =>
      refine .nest (writeln_lineStart level held _) (writeln_lineStart level held _) ?_ hb h
      simp [programLines, Line.text, String.append_assoc]
    | indented =>
      refine .nest (o := "") (c := "") rfl rfl ?_ hb h
      simp [programLines]

/-- A program of whole lines never fails, and its text is the text of its lines. -/
theorem render?_map_spell (imports : Imports) {p : Program Phrase} (hp : WholeLines p) :
    (p.map (Phrase.spell imports)).render? "\t" = some (linesText imports (programLines 0 p)) := by
  have h := hp.writesLines imports true 0 0
  simp [Program.render?, State.initial, h.ok, h.out]

/-! ## Printed declarations -/

theorem wholeLines_line (p : Phrase) : WholeLines (.line p) := trivial

theorem wholeLines_block (header : Phrase) {body : Program Phrase} (h : WholeLines body) :
    WholeLines (.block header body) := ⟨h, trivial⟩

theorem wholeLines_blockWith (opener closer : Phrase) {body : Program Phrase}
    (h : WholeLines body) : WholeLines (.blockWith opener closer body) := ⟨h, trivial⟩

theorem wholeLines_streamFlags (c s : Bool) : WholeLines (streamFlags c s) :=
  (wholeLines_line _).append (wholeLines_line _)

theorem wholeLines_stmt : ∀ s : Stmt, WholeLines s.print
  | .declare .. | .allocate .. | .assign .. | .returns _ | .returnsCall .. => trivial
  | .attempt _ | .returnError => wholeLines_block _ (wholeLines_line _)
  | .returnsNew .. => wholeLines_blockWith _ _ (wholeLines_line _)
  | .openStream _ => wholeLines_blockWith _ _ (wholeLines_streamFlags _ _)

theorem wholeLines_stmts (stmts : List Stmt) : WholeLines (printStmts stmts) :=
  .concat_map wholeLines_stmt stmts

theorem wholeLines_funcLit (before : String) (f : FuncLit) : WholeLines (f.print before) :=
  wholeLines_blockWith _ _ (wholeLines_stmts f.body)

theorem wholeLines_methodRow (r : MethodRow) : WholeLines r.print := wholeLines_funcLit _ _

theorem wholeLines_streamRow (r : StreamRow) : WholeLines r.print :=
  wholeLines_blockWith _ _ ((wholeLines_funcLit _ _).append (wholeLines_streamFlags _ _))

theorem wholeLines_printMap (field : String) (rowType : Ty) {rows : List (Program Phrase)}
    (h : ∀ p ∈ rows, WholeLines p) : WholeLines (printMap field rowType rows) := by
  unfold printMap
  split
  · trivial
  · exact wholeLines_blockWith _ _ (.concat h)

theorem wholeLines_registration (r : Registration) : WholeLines r.print := by
  refine wholeLines_blockWith _ _ (.append (wholeLines_printMap _ _ ?_)
    (wholeLines_printMap _ _ ?_))
  · intro p hp
    obtain ⟨row, -, rfl⟩ := List.mem_map.mp hp
    exact wholeLines_methodRow row
  · intro p hp
    obtain ⟨row, -, rfl⟩ := List.mem_map.mp hp
    exact wholeLines_streamRow row

theorem wholeLines_decl : ∀ d : Decl, WholeLines d.print
  | .interface _ methods embedded =>
    wholeLines_block _ <|
      (WholeLines.concat_map (fun m => wholeLines_line m.phrase) methods).append
        (.concat_map (fun ty => wholeLines_line ty.phrase) embedded.toList)
  | .struct .. => wholeLines_block _ (wholeLines_line _)
  | .func f => by
    refine wholeLines_block _ ?_
    cases f.body with
    | statements stmts => exact wholeLines_stmts stmts
    | registers r => exact wholeLines_registration r

/-- The lines of a declaration. -/
def Decl.lines (d : Decl) : List Line := programLines 0 d.print

/-- The lines of declarations that stand together, with the empty line after them. -/
def Section.lines (s : Section) : List Line := s.flatMap Decl.lines ++ [⟨0, []⟩]

theorem wholeLines_section (s : Section) : WholeLines s.print := by
  refine (WholeLines.concat_map wholeLines_decl s).append ?_
  trivial

theorem wholeLines_printSections (ss : List Section) : WholeLines (printSections ss) :=
  .concat_map wholeLines_section ss

theorem programLines_printSections (ss : List Section) :
    programLines 0 (printSections ss) = ss.flatMap Section.lines := by
  rw [printSections, programLines_concat, List.flatMap_map]
  congr 1
  funext s
  rw [Section.print, programLines_append, programLines_concat, List.flatMap_map]
  rfl

end GoStubs.Go
