import GoStubs.Proofs.Go.Lines
import GoStubs.Unicode.Blank
/-!
# The layout of code

Go's formatter indents every line with as many tabs as blocks are open where it stands. Which
blocks these are can be seen from the lines themselves: a line that ends in a brace opens one, and
a line that starts with a brace closes one. So a reader that knows nothing of Go, and only counts,
can tell whether a text is laid out in this way, and a program whose lines show what their frames
are always is.

* `Shape`: the text of a line, and whether it closes or opens a block.
* `LaidOut`: lines that lead a counting reader from one place to another.
* `Neat`: programs with such lines; `Neat.laidOut` follows their frames.
-/

namespace GoStubs.Go

open GoStubs.Unicode
open GoStubs.Writer

/-! ## Lines of code -/

/-- Whether no line ends inside of a text. -/
def OneLine (text : String) : Prop := '\n' ∉ text.toList

/-- Whether a text starts with a character that is not blank, and is a closing brace or is not. -/
def Starts (closing : Bool) (text : String) : Prop :=
  text.toList.head?.any fun c => !isBlank c && (c == '\x7d') == closing

/-- Whether a text ends in a character that is not blank, and is an opening brace or is not. -/
def Ends (opening : Bool) (text : String) : Prop :=
  text.toList.getLast?.any fun c => !isBlank c && (c == '\x7b') == opening

instance (text : String) : Decidable (OneLine text) := inferInstanceAs (Decidable (¬ _))

instance (closing : Bool) (text : String) : Decidable (Starts closing text) :=
  inferInstanceAs (Decidable (_ = true))

instance (opening : Bool) (text : String) : Decidable (Ends opening text) :=
  inferInstanceAs (Decidable (_ = true))

/-- The text of a line of code, from its first character to its last. It closes a block if it starts
with a brace, and it opens one if it ends in a brace. -/
structure Shape (closing opening : Bool) (text : String) : Prop where
  oneLine : OneLine text
  starts : Starts closing text
  ends : Ends opening text

/-- Where a reader of lines stands. -/
structure Place where
  /-- How many blocks are open. -/
  depth : Nat
  /-- Whether the line before is one of code. -/
  afterCode : Bool

/-- Lines between two places. A line of code has a tab for each open block, without the one that it
closes itself, and no blank behind its text. A line without code has nothing on it at all, and there
is never another one next to it. -/
inductive LaidOut : Place → List String → Place → Prop where
  | nil {p : Place} : LaidOut p [] p
  | blank {depth : Nat} {lines : List String} {p : Place} (h : LaidOut ⟨depth, false⟩ lines p) :
      LaidOut ⟨depth, true⟩ ("" :: lines) p
  | code {depth : Nat} {afterCode closing opening : Bool} {text : String} {lines : List String}
      {p : Place} (hshape : Shape closing opening text) (hdepth : closing.toNat ≤ depth)
      (h : LaidOut ⟨depth - closing.toNat + opening.toNat, true⟩ lines p) :
      LaidOut ⟨depth, afterCode⟩ ((margin "\t" (depth - closing.toNat) ++ text) :: lines) p

/-- The text that consists of lines, each with its end. -/
def textOfLines (lines : List String) : String := String.join (lines.map (· ++ "\n"))

theorem LaidOut.append {p q r : Place} {ls ms : List String} (h : LaidOut p ls q)
    (h' : LaidOut q ms r) : LaidOut p (ls ++ ms) r := by
  induction h with
  | nil => exact h'
  | blank _ ih => exact .blank (ih h')
  | code hshape hdepth _ ih => exact .code hshape hdepth (ih h')

/-- Lines that come in groups, each of which leads back to where it starts. -/
theorem LaidOut.flatMap {α : Type} {p : Place} {f : α → List String} {as : List α}
    (h : ∀ a ∈ as, LaidOut p (f a) p) : LaidOut p (as.flatMap f) p := by
  induction as with
  | nil => exact .nil
  | cons a as ih =>
    obtain ⟨ha, has⟩ := List.forall_mem_cons.mp h
    exact ha.append (ih has)

@[simp] theorem textOfLines_nil : textOfLines [] = "" := rfl

@[simp] theorem textOfLines_cons (l : String) (ls : List String) :
    textOfLines (l :: ls) = l ++ "\n" ++ textOfLines ls := by
  simp [textOfLines]

theorem textOfLines_append (ls ms : List String) :
    textOfLines (ls ++ ms) = textOfLines ls ++ textOfLines ms := by
  induction ls with
  | nil => simp
  | cons l ls ih => simp only [List.cons_append, textOfLines_cons, ih, String.append_assoc]

/-! ## Texts that are put together -/

section

variable {closing opening : Bool} {a b : String}

@[simp] theorem oneLine_append : OneLine (a ++ b) ↔ OneLine a ∧ OneLine b := by
  rw [OneLine, String.toList_append, List.mem_append, not_or]
  rfl

theorem Starts.append (h : Starts closing a) (b : String) : Starts closing (a ++ b) := by
  rw [Starts, String.toList_append, List.head?_append]
  rw [Starts] at h
  cases ha : a.toList.head? with
  | none => simp [ha] at h
  | some c => simpa [ha] using h

theorem Ends.append (h : Ends opening b) (a : String) : Ends opening (a ++ b) := by
  rw [Ends, String.toList_append, List.getLast?_append]
  rw [Ends] at h
  cases hb : b.toList.getLast? with
  | none => simp [hb] at h
  | some c => simpa [hb] using h

theorem Shape.ne_empty (h : Shape closing opening a) : a ≠ "" := by
  intro hempty
  have hstarts := h.starts
  rw [hempty] at hstarts
  exact absurd hstarts (by cases closing <;> decide)

/-- A separator between texts makes no new line. -/
theorem oneLine_intercalate {separator : String} (hseparator : OneLine separator) {ss : List String}
    (h : ∀ s ∈ ss, OneLine s) : OneLine (separator.intercalate ss) := by
  induction ss with
  | nil =>
    rw [String.intercalate_nil]
    decide
  | cons s ss ih =>
    obtain ⟨hs, hss⟩ := List.forall_mem_cons.mp h
    cases ss with
    | nil => exact hs
    | cons t ss =>
      rw [String.intercalate_cons_cons, oneLine_append, oneLine_append]
      exact ⟨⟨hs, hseparator⟩, ih hss⟩

/-- Texts with a separator between them end as the last of them does. -/
theorem ends_intercalate (separator : String) {ss : List String} (hne : ss ≠ [])
    (h : ∀ s ∈ ss, Ends opening s) : Ends opening (separator.intercalate ss) := by
  induction ss with
  | nil => exact absurd rfl hne
  | cons s ss ih =>
    obtain ⟨hs, hss⟩ := List.forall_mem_cons.mp h
    cases ss with
    | nil => exact hs
    | cons t ss =>
      rw [String.intercalate_cons_cons]
      exact (ih (List.cons_ne_nil t ss) hss).append _

end

/-! ## Lines of programs -/

theorem spell_text (imports : Imports) (s : String) : Phrase.spell imports [.text s] = s := by
  rw [spell_cons, spell_nil, String.append_empty, Word.spell]

theorem spell_text_cons (imports : Imports) (s : String) (p : Phrase) :
    Phrase.spell imports (.text s :: p) = s ++ Phrase.spell imports p := spell_cons imports _ p

/-- The text of a line in a file with the given imports, without its end. -/
def Line.shown (imports : Imports) (l : Line) : String :=
  if l.words.spell imports = "" then "" else margin "\t" l.depth ++ l.words.spell imports

theorem linesText_eq (imports : Imports) (ls : List Line) :
    linesText imports ls = textOfLines (ls.map (Line.shown imports)) := by
  have hline (l : Line) : l.text imports = l.shown imports ++ "\n" := by
    rw [Line.text, lineText, Line.shown]
    split <;> simp
  induction ls with
  | nil => rfl
  | cons l ls ih => rw [linesText_cons, List.map_cons, textOfLines_cons, ih, hline]

theorem shown_of_shape {imports : Imports} {closing opening : Bool} {words : Phrase}
    (h : Shape closing opening (words.spell imports)) (depth : Nat) :
    Line.shown imports ⟨depth, words⟩ = margin "\t" depth ++ words.spell imports := by
  rw [Line.shown, if_neg h.ne_empty]

/-- Whether the lines of a program show what they are: those before a body open a block, those
after it close one, and all others do neither. -/
def Neat (imports : Imports) : Program Phrase → Prop
  | .done => True
  | .act (.writeln words) rest => Shape false false (words.spell imports) ∧ Neat imports rest
  | .act _ _ => False
  | .nest (.block header) body rest =>
    Shape false true (Phrase.spell imports (header ++ [.text " \x7b"])) ∧ Neat imports body ∧
      Neat imports rest
  | .nest (.blockWith opener closer) body rest =>
    (Shape false true (opener.spell imports) ∧ Shape true false (closer.spell imports)) ∧
      Neat imports body ∧ Neat imports rest
  | .nest .indented _ _ => False

section

variable {imports : Imports} {p q : Program Phrase}

theorem Neat.append (hp : Neat imports p) (hq : Neat imports q) : Neat imports (p ++ q) := by
  induction p with
  | done => exact hq
  | act a rest ih =>
    show Neat imports (.act a (rest ++ q))
    cases a with
    | writeln words => exact ⟨hp.1, ih hp.2⟩
    | _ => exact hp.elim
  | nest f body rest _ ih =>
    show Neat imports (.nest f body (rest ++ q))
    cases f with
    | block header => exact ⟨hp.1, hp.2.1, ih hp.2.2⟩
    | blockWith opener closer => exact ⟨hp.1, hp.2.1, ih hp.2.2⟩
    | indented => exact hp.elim

theorem Neat.concat {ps : List (Program Phrase)} (h : ∀ p ∈ ps, Neat imports p) :
    Neat imports (.concat ps) := by
  induction ps with
  | nil => trivial
  | cons p ps ih =>
    obtain ⟨hp, hps⟩ := List.forall_mem_cons.mp h
    exact hp.append (ih hps)

theorem Neat.concat_map {α : Type} {f : α → Program Phrase} {as : List α}
    (h : ∀ a ∈ as, Neat imports (f a)) : Neat imports (.concat (as.map f)) :=
  .concat (List.forall_mem_map.mpr h)

/-- The lines of a frame: one that opens a block, those of the body, and one that closes the block.
-/
theorem LaidOut.frame (afterCode : Bool) {depth : Nat} {opener closer : Phrase} {body : List String}
    (hopener : Shape false true (opener.spell imports))
    (hcloser : Shape true false (closer.spell imports))
    (hbody : LaidOut ⟨depth + 1, true⟩ body ⟨depth + 1, true⟩) :
    LaidOut ⟨depth, afterCode⟩ (Line.shown imports ⟨depth, opener⟩ ::
      (body ++ [Line.shown imports ⟨depth, closer⟩])) ⟨depth, true⟩ := by
  rw [shown_of_shape hopener, shown_of_shape hcloser]
  have hclose : LaidOut ⟨depth + 1, true⟩ [margin "\t" depth ++ closer.spell imports]
      ⟨depth, true⟩ := .code hcloser (Nat.le_add_left 1 depth) .nil
  exact .code hopener (Nat.zero_le depth) (hbody.append hclose)

/-- A brace alone is enough to close a block. -/
theorem shape_brace : Shape true false (Phrase.spell imports [.text "\x7d"]) := by
  rw [spell_text]
  exact ⟨by decide, by decide, by decide⟩

/-- A neat program is laid out, at whatever depth it stands. -/
theorem Neat.laidOut (h : Neat imports p) : ∀ depth : Nat,
    LaidOut ⟨depth, true⟩ ((programLines depth p).map (Line.shown imports)) ⟨depth, true⟩ := by
  induction p with
  | done => exact fun depth => .nil
  | act a rest ih =>
    intro depth
    cases a with
    | writeln words =>
      rw [programLines, List.map_cons, shown_of_shape h.1]
      exact .code h.1 (Nat.zero_le depth) (ih h.2 depth)
    | _ => exact h.elim
  | nest f body rest ihbody ih =>
    intro depth
    -- Both frames are laid out alike; a block has its braces from the writer.
    cases f with
    | block header =>
      have hframe := LaidOut.frame true h.1 shape_brace (ihbody h.2.1 (depth + 1))
      simpa [programLines] using hframe.append (ih h.2.2 depth)
    | blockWith opener closer =>
      have hframe := LaidOut.frame true h.1.1 h.1.2 (ihbody h.2.1 (depth + 1))
      simpa [programLines] using hframe.append (ih h.2.2 depth)
    | indented => exact h.elim

end

end GoStubs.Go
