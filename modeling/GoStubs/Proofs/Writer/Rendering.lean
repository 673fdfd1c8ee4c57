import GoStubs.Proofs.Text.Split
import GoStubs.Proofs.Writer.Steps
/-!
# The lines of a program

What a program writes is a sequence of lines, and the margin of a line depends on the guards that
are live when something is first written on it. The writer has no lines. It has a level and knows
whether it stands at the start of a line, and it can be left in the middle of one, with more guards
than it had before, at any place of a program. Here the lines are read off the program alone, and
the writer is shown to deliver them.

* `Program.strokes`: the texts and line ends of a program, with the guards that are live.
* `linesOf`, `TextLine.render`: the lines that these make, and their texts.
* `Writes`: a step that delivers strokes, wherever on a line it begins.
* `run_renders`: all programs without failures, over sinks that take every text.
-/

namespace GoStubs.Writer

/-! ## Lines -/

/-- A text or the end of a line. -/
inductive Stroke where
  /-- A text, and how many guards are live when it is written. -/
  | text (guards : Nat) (text : String)
  | lineEnd
  deriving DecidableEq, Repr

/-- Whether there is no line end in the text of a stroke. -/
def Stroke.OneLine : Stroke → Prop
  | text _ s => '\n' ∉ s.toList
  | lineEnd => True

instance : (stroke : Stroke) → Decidable stroke.OneLine
  | .text _ s => inferInstanceAs (Decidable ('\n' ∉ s.toList))
  | .lineEnd => .isTrue trivial

/-- The texts of a line, each with the number of guards that are live when it is written. -/
abbrev TextLine := List (Nat × String)

/-- The lines that strokes make. The last line is the one that has not been ended. -/
def linesOf : List Stroke → List TextLine
  | [] => [[]]
  | .text guards text :: ss => (linesOf ss).modifyHead ((guards, text) :: ·)
  | .lineEnd :: ss => [] :: linesOf ss

namespace TextLine

/-- The texts of a line without its margin. -/
def content (l : TextLine) : String := String.join (l.map Prod.snd)

/-- A line has one indent for each guard that is live when the first text on it is written that is
not empty. Without such a text it is empty. -/
def render (indent : String) (l : TextLine) : String :=
  match l.find? fun w => w.2 ≠ "" with
  | some w => margin indent w.1 ++ l.content
  | none => ""

end TextLine

/-! ## The strokes of a program -/

def Action.strokes (guards : Nat) : Action String → List Stroke
  | write text => [.text guards text]
  | writeln text => [.text guards text, .lineEnd]
  | writeFormatted pieces => [.text guards (String.join (pieces.map Piece.text)), .lineEnd]
  | blankLine => [.lineEnd]
  | indent | dedent | fail => []

/-- How many guards a program holds after an action. It does not matter which one is dropped. -/
def Action.heldAfter (held : Nat) : Action String → Nat
  | indent => held + 1
  | dedent => held - 1
  | write _ | writeln _ | writeFormatted _ | blankLine | fail => held

def Frame.strokesBefore (guards : Nat) : Frame String → List Stroke
  | block header => [.text guards header, .text guards " \x7b", .lineEnd]
  | blockWith opener _ => [.text guards opener, .lineEnd]
  | indented => []

def Frame.strokesAfter (guards : Nat) : Frame String → List Stroke
  | block _ => [.text guards "\x7d", .lineEnd]
  | blockWith _ closer => [.text guards closer, .lineEnd]
  | indented => []

namespace Program

/-- How many guards a program holds in the end. -/
def heldAfter (held : Nat) : Program String → Nat
  | done => held
  | act a rest => rest.heldAfter (a.heldAfter held)
  | nest _ body rest => rest.heldAfter (body.heldAfter held)

/-- The strokes of a program that stands in a number of frames, each with a guard, and starts with a
number of guards of its own. -/
def strokes (frames held : Nat) : Program String → List Stroke
  | done => []
  | act a rest => a.strokes (frames + held) ++ rest.strokes frames (a.heldAfter held)
  | nest f body rest =>
    f.strokesBefore (frames + held) ++ body.strokes (frames + 1) held ++
      f.strokesAfter (frames + body.heldAfter held) ++ rest.strokes frames (body.heldAfter held)

/-- The lines of a program. -/
def lines (p : Program String) : List TextLine := linesOf (p.strokes 0 0)

end Program

/-! ## The text of strokes -/

theorem linesOf_ne_nil (ss : List Stroke) : linesOf ss ≠ [] := by
  induction ss with
  | nil => exact List.cons_ne_nil _ _
  | cons stroke ss ih =>
    cases stroke with
    | text guards text => simpa [linesOf] using ih
    | lineEnd => exact List.cons_ne_nil _ _

/-- What is added to a line by the given texts: all of it at its start, and only the texts
otherwise. -/
def TextLine.renderFrom (indent : String) (lineStart : Bool) (l : TextLine) : String :=
  if lineStart then l.render indent else l.content

/-- The text of strokes that begin at the start of a line or further on. -/
def textFrom (indent : String) (lineStart : Bool) (ss : List Stroke) : String :=
  match linesOf ss with
  | [] => ""
  | l :: ls => "\n".intercalate (l.renderFrom indent lineStart :: ls.map (TextLine.render indent))

/-- Whether strokes that begin at the start of a line end at the start of one. -/
def endsAtStart (lineStart : Bool) : List Stroke → Bool
  | [] => lineStart
  | .text _ text :: ss => endsAtStart (lineStart && text = "") ss
  | .lineEnd :: ss => endsAtStart true ss

/-- What a text adds to a line. -/
def added (indent : String) (lineStart : Bool) (guards : Nat) (text : String) : String :=
  if text = "" then "" else (if lineStart then margin indent guards else "") ++ text

section

variable {indent : String}

theorem TextLine.content_cons (guards : Nat) (text : String) (l : TextLine) :
    TextLine.content ((guards, text) :: l) = text ++ l.content := by
  simp [TextLine.content]

theorem TextLine.renderFrom_cons (lineStart : Bool) (guards : Nat) (text : String) (l : TextLine) :
    TextLine.renderFrom indent lineStart ((guards, text) :: l) =
      added indent lineStart guards text ++ l.renderFrom indent (lineStart && text = "") := by
  by_cases h : text = ""
  · subst h
    cases lineStart with
    | true =>
      have hcontent : TextLine.content ((guards, "") :: l) = l.content := by
        rw [TextLine.content_cons, String.empty_append]
      simp [TextLine.renderFrom, added, TextLine.render, hcontent]
    | false => simp [TextLine.renderFrom, added, TextLine.content_cons]
  · cases lineStart with
    | true => simp [TextLine.renderFrom, added, TextLine.render, TextLine.content_cons, h,
        String.append_assoc]
    | false => simp [TextLine.renderFrom, added, TextLine.content_cons, h]

theorem intercalate_append_cons (sep a b : String) (ls : List String) :
    sep.intercalate ((a ++ b) :: ls) = a ++ sep.intercalate (b :: ls) := by
  cases ls with
  | nil => rw [String.intercalate_singleton, String.intercalate_singleton]
  | cons l ls =>
    simp only [String.intercalate_cons_cons, String.append_assoc]

theorem textFrom_nil (lineStart : Bool) : textFrom indent lineStart [] = "" := by
  cases lineStart <;> simp [textFrom, linesOf, TextLine.renderFrom, TextLine.render,
    TextLine.content]

theorem textFrom_text (lineStart : Bool) (guards : Nat) (text : String) (ss : List Stroke) :
    textFrom indent lineStart (.text guards text :: ss) =
      added indent lineStart guards text ++ textFrom indent (lineStart && text = "") ss := by
  rw [textFrom, textFrom, linesOf]
  cases hlines : linesOf ss with
  | nil => exact absurd hlines (linesOf_ne_nil ss)
  | cons l ls =>
    simp only [List.modifyHead_cons]
    rw [TextLine.renderFrom_cons, intercalate_append_cons]

theorem textFrom_lineEnd (lineStart : Bool) (ss : List Stroke) :
    textFrom indent lineStart (.lineEnd :: ss) = "\n" ++ textFrom indent true ss := by
  rw [textFrom, textFrom, linesOf]
  cases hlines : linesOf ss with
  | nil => exact absurd hlines (linesOf_ne_nil ss)
  | cons l ls =>
    have hempty : TextLine.renderFrom indent lineStart [] = "" := by cases lineStart <;> rfl
    simp only [List.map_cons]
    rw [hempty, String.intercalate_cons_cons, String.empty_append]
    rfl

theorem textFrom_append (lineStart : Bool) (ss ts : List Stroke) :
    textFrom indent lineStart (ss ++ ts) =
      textFrom indent lineStart ss ++ textFrom indent (endsAtStart lineStart ss) ts := by
  induction ss generalizing lineStart with
  | nil => rw [List.nil_append, textFrom_nil, String.empty_append, endsAtStart]
  | cons stroke ss ih =>
    cases stroke with
    | text guards text =>
      rw [List.cons_append, textFrom_text, textFrom_text, ih, String.append_assoc, endsAtStart]
    | lineEnd =>
      rw [List.cons_append, textFrom_lineEnd, textFrom_lineEnd, ih, String.append_assoc,
        endsAtStart]

theorem endsAtStart_append (lineStart : Bool) (ss ts : List Stroke) :
    endsAtStart lineStart (ss ++ ts) = endsAtStart (endsAtStart lineStart ss) ts := by
  induction ss generalizing lineStart with
  | nil => rfl
  | cons stroke ss ih => cases stroke <;> exact ih _

/-- From the start of a line, strokes are their lines. -/
theorem textFrom_true (ss : List Stroke) :
    textFrom indent true ss = "\n".intercalate ((linesOf ss).map (TextLine.render indent)) := by
  rw [textFrom]
  cases hlines : linesOf ss with
  | nil => exact absurd hlines (linesOf_ne_nil ss)
  | cons l ls => rfl

end

/-! ## Positions -/

/-- What a writer knows besides the sink. -/
structure Position where
  level : Nat
  held : Nat
  lineStart : Bool

section

variable {κ : Type} {Q : κ → Prop} {p p' p'' : Position} {text text' : String} {x y : Step κ}

/-- The state of a writer with the given sink. -/
def Position.state (p : Position) (sink : κ) : State κ := ⟨sink, p.level, p.held, p.lineStart⟩

/-- Whether a step succeeds over every sink with a property, delivers a text and leads from one
position to another. -/
def Puts (Q : κ → Prop) (x : Step κ) (p : Position) (text : String) (p' : Position) : Prop :=
  ∀ sink, Q sink → ∃ sink', Q sink' ∧ x (p.state sink) = ⟨text, true, p'.state sink'⟩

theorem puts_update {f : State κ → State κ} (hf : ∀ sink, f (p.state sink) = p'.state sink) :
    Puts Q (.update f) p "" p' := fun sink hsink =>
  ⟨sink, hsink, congrArg (Outcome.mk "" true) (hf sink)⟩

theorem puts_lineStart (b : Bool) (p : Position) :
    Puts Q (.update ({ · with lineStart := b })) p "" { p with lineStart := b } :=
  puts_update fun _ => rfl

theorem Puts.follow (hx : Puts Q x p text p') (hy : Puts Q y p' text' p'') (halting : Bool) :
    Puts Q (x.follow halting y) p (text ++ text') p'' := by
  intro sink hsink
  obtain ⟨sink', hsink', hfirst⟩ := hx sink hsink
  obtain ⟨sink'', hsink'', hsecond⟩ := hy sink' hsink'
  refine ⟨sink'', hsink'', ?_⟩
  rw [Step.follow_of_goes_on (by simp [hfirst]), hfirst, hsecond, Bool.and_self]

theorem Puts.andThen (hx : Puts Q x p text p') (hy : Puts Q y p' text' p'') :
    Puts Q (x.andThen y) p (text ++ text') p'' := by
  rw [Step.andThen_eq_follow]
  exact hx.follow hy true

theorem Puts.within
    (hx : Puts Q x { p with level := p.level + 1 } text { p' with level := p'.level + 1 }) :
    Puts Q x.within p text p' := by
  intro sink hsink
  obtain ⟨sink', hsink', hbody⟩ := hx sink hsink
  have hdeeper : (p.state sink).deeper = Position.state { p with level := p.level + 1 } sink := rfl
  refine ⟨sink', hsink', ?_⟩
  simp only [Step.within, hdeeper, hbody]
  rfl

/-- Whether a step delivers strokes wherever on a line it begins, at a level and with a number of
guards held by the program, and what these are afterwards. -/
def Writes (Q : κ → Prop) (indent : String) (x : Step κ) (level held : Nat) (ss : List Stroke)
    (level' held' : Nat) : Prop :=
  ∀ lineStart, Puts Q x ⟨level, held, lineStart⟩ (textFrom indent lineStart ss)
    ⟨level', held', endsAtStart lineStart ss⟩

variable {indent : String} {level level' level'' held held' held'' : Nat} {ss ts : List Stroke}

theorem writes_nil_of_update {f : State κ → State κ}
    (hf : ∀ sink lineStart, f ⟨sink, level, held, lineStart⟩ = ⟨sink, level', held', lineStart⟩) :
    Writes Q indent (.update f) level held [] level' held' := by
  intro lineStart
  rw [textFrom_nil]
  exact puts_update fun sink => hf sink lineStart

theorem writes_pass : Writes Q indent .pass level held [] level held :=
  writes_nil_of_update fun _ _ => rfl

theorem Writes.follow (hx : Writes Q indent x level held ss level' held')
    (hy : Writes Q indent y level' held' ts level'' held'') (halting : Bool) :
    Writes Q indent (x.follow halting y) level held (ss ++ ts) level'' held'' := by
  intro lineStart
  rw [textFrom_append, endsAtStart_append]
  exact (hx lineStart).follow (hy _) halting

theorem Writes.andThen (hx : Writes Q indent x level held ss level' held')
    (hy : Writes Q indent y level' held' ts level'' held'') :
    Writes Q indent (x.andThen y) level held (ss ++ ts) level'' held'' := by
  rw [Step.andThen_eq_follow]
  exact hx.follow hy true

theorem Writes.within (hx : Writes Q indent x (level + 1) held ss (level' + 1) held') :
    Writes Q indent x.within level held ss level' held' := fun lineStart => (hx lineStart).within

end

/-! ## Sinks that take every text -/

section

variable {κ : Type} [Sink κ]

/-- Whether the sinks with a property take every text and keep the property. -/
def TakesAll (Q : κ → Prop) : Prop :=
  ∀ sink, Q sink → ∀ text, ∃ sink', Q sink' ∧ Sink.receive sink text = ⟨text, true, sink'⟩

/-- Whether a sink takes every text, at any time. -/
def NeverRefuses (sink : κ) : Prop := ∃ Q : κ → Prop, TakesAll Q ∧ Q sink

theorem neverRefuses_unlimited : NeverRefuses (none : Room) := by
  refine ⟨fun room => room = none, fun room hroom text => ⟨none, rfl, ?_⟩, rfl⟩
  rw [hroom]
  rfl

/-! ## Writing strokes -/

variable {Q : κ → Prop} {x y : Step κ}

theorem puts_deliver (hQ : TakesAll Q) (text : String) (p : Position) :
    Puts Q (deliver text) p text p := by
  intro sink hsink
  obtain ⟨sink', hsink', hreceive⟩ := hQ sink hsink text
  refine ⟨sink', hsink', ?_⟩
  simp only [deliver, Position.state, hreceive]

theorem puts_deliverMargin (hQ : TakesAll Q) (indent : String) (level : Nat) (p : Position) :
    Puts Q (deliverMargin indent level) p (margin indent level) p := by
  induction level with
  | zero => exact puts_update fun _ => rfl
  | succ level ih =>
    rw [margin_succ]
    exact (puts_deliver hQ indent p).andThen ih

theorem puts_beginLine (hQ : TakesAll Q) (indent : String) (p : Position) :
    Puts Q (beginLine indent) p (if p.lineStart then margin indent p.level else "")
      { p with lineStart := false } := by
  obtain ⟨level, held, lineStart⟩ := p
  cases lineStart with
  | true =>
    have hmargin := (puts_deliverMargin hQ indent level ⟨level, held, true⟩).andThen
      (puts_lineStart false ⟨level, held, true⟩)
    rwa [String.append_empty] at hmargin
  | false => exact fun sink hsink => ⟨sink, hsink, rfl⟩

theorem puts_write (hQ : TakesAll Q) (indent text : String) (p : Position) :
    Puts Q (write indent text) p (added indent p.lineStart p.level text)
      { p with lineStart := p.lineStart && text = "" } := by
  rw [write, added]
  by_cases h : text = ""
  · rw [if_pos h, if_pos h, decide_eq_true h, Bool.and_true]
    exact puts_update fun _ => rfl
  · rw [if_neg h, if_neg h, decide_eq_false h, Bool.and_false]
    exact (puts_beginLine hQ indent p).andThen (puts_deliver hQ text _)

theorem puts_newline (hQ : TakesAll Q) (p : Position) :
    Puts Q newline p "\n" { p with lineStart := true } := by
  have hnewline := (puts_deliver hQ "\n" p).andThen (puts_lineStart true p)
  rwa [String.append_empty] at hnewline

variable {indent : String} {level held : Nat}

theorem writes_write (hQ : TakesAll Q) (text : String) :
    Writes Q indent (write indent text) level held [.text level text] level held := by
  intro lineStart
  rw [textFrom_text, textFrom_nil, String.append_empty]
  exact puts_write hQ indent text ⟨level, held, lineStart⟩

theorem writes_newline (hQ : TakesAll Q) :
    Writes Q indent newline level held [.lineEnd] level held := by
  intro lineStart
  rw [textFrom_lineEnd, textFrom_nil, String.append_empty]
  exact puts_newline hQ ⟨level, held, lineStart⟩

theorem writes_writeln (hQ : TakesAll Q) (text : String) :
    Writes Q indent (writeln indent text) level held [.text level text, .lineEnd] level held :=
  (writes_write hQ text).andThen (writes_newline hQ)

theorem writes_opening (hQ : TakesAll Q) (f : Frame String) :
    Writes Q indent (f.opening indent) level held (f.strokesBefore level) level held := by
  cases f with
  | block header => exact (writes_write hQ header).andThen (writes_writeln hQ _)
  | blockWith opener closer => exact writes_writeln hQ opener
  | indented => exact writes_pass

theorem writes_closing (hQ : TakesAll Q) (f : Frame String) :
    Writes Q indent (f.closing indent) level held (f.strokesAfter level) level held := by
  cases f with
  | block header => exact writes_writeln hQ _
  | blockWith opener closer => exact writes_writeln hQ closer
  | indented => exact writes_pass

/-- An action that is not made to fail delivers its strokes, and the level changes with the guards
that the program holds. -/
theorem writes_action (hQ : TakesAll Q) (a : Action String) (ha : a ≠ .fail) (frames held : Nat) :
    Writes Q indent (a.step indent) (frames + held) held (a.strokes (frames + held))
      (frames + a.heldAfter held) (a.heldAfter held) := by
  cases a with
  | write text => exact writes_write hQ text
  | writeln text => exact writes_writeln hQ text
  | writeFormatted pieces => exact writes_writeln hQ _
  | blankLine => exact writes_newline hQ
  | indent => exact writes_nil_of_update fun _ _ => rfl
  | dedent =>
    refine writes_nil_of_update fun sink lineStart => ?_
    cases held with
    | zero => rfl
    | succ held => rfl
  | fail => exact absurd rfl ha

/-- A program without failures delivers its strokes. -/
theorem writes_program (hQ : TakesAll Q) (indent : String) {p : Program String} (hp : p.WithoutFailure)
    (frames held : Nat) (halting : Bool) :
    Writes Q indent (p.step indent halting) (frames + held) held (p.strokes frames held)
      (frames + p.heldAfter held) (p.heldAfter held) := by
  induction p generalizing frames held halting with
  | done =>
    rw [Program.step_done]
    exact writes_pass
  | act a rest ih =>
    have hsplit : a ≠ .fail ∧ rest.WithoutFailure := by
      cases a with
      | fail => exact hp.elim
      | _ => exact ⟨by simp, hp⟩
    rw [Program.step_act]
    exact (writes_action hQ a hsplit.1 frames held).follow (ih hsplit.2 frames _ halting) halting
  | nest f body rest ihb ih =>
    rw [Program.step_nest]
    have hbody := ihb hp.1 (frames + 1) held true
    rw [Nat.add_right_comm, Nat.add_right_comm frames 1] at hbody
    exact (((writes_opening hQ f).andThen hbody.within).andThen (writes_closing hQ f)).follow
      (ih hp.2 frames _ halting) halting

/-! ## Programs -/

theorem text_mem_of_mem_linesOf {ss : List Stroke} {l : TextLine} (hl : l ∈ linesOf ss)
    {w : Nat × String} (hw : w ∈ l) : Stroke.text w.1 w.2 ∈ ss := by
  induction ss generalizing l with
  | nil =>
    obtain rfl := List.mem_singleton.mp hl
    cases hw
  | cons stroke ss ih =>
    cases stroke with
    | lineEnd =>
      rcases List.mem_cons.mp hl with rfl | hl
      · cases hw
      · exact List.mem_cons_of_mem _ (ih hl hw)
    | text guards text =>
      rw [linesOf] at hl
      cases hlines : linesOf ss with
      | nil => exact absurd hlines (linesOf_ne_nil ss)
      | cons l' ls =>
        rw [hlines] at ih hl
        rcases List.mem_cons.mp hl with rfl | hl
        · rcases List.mem_cons.mp hw with rfl | hw
          · exact List.mem_cons_self
          · exact List.mem_cons_of_mem _ (ih List.mem_cons_self hw)
        · exact List.mem_cons_of_mem _ (ih (List.mem_cons_of_mem _ hl) hw)

theorem not_mem_join {c : Char} {ss : List String} (h : ∀ s ∈ ss, c ∉ s.toList) :
    c ∉ (String.join ss).toList := by
  induction ss with
  | nil => simp
  | cons s ss ih =>
    obtain ⟨hs, hss⟩ := List.forall_mem_cons.mp h
    simp only [String.join_cons, String.toList_append, List.mem_append, not_or]
    exact ⟨hs, ih hss⟩

theorem not_mem_render {c : Char} {indent : String} (hindent : c ∉ indent.toList) {l : TextLine}
    (hl : ∀ w ∈ l, c ∉ w.2.toList) : c ∉ (l.render indent).toList := by
  have hmargin (level : Nat) : c ∉ (margin indent level).toList :=
    not_mem_join fun s hs => (List.eq_of_mem_replicate hs) ▸ hindent
  have hcontent : c ∉ l.content.toList := not_mem_join (List.forall_mem_map.mpr hl)
  rw [TextLine.render]
  split
  · simp [hmargin, hcontent]
  · simp

/-- **Lines.** A program without failures writes all of its text to a sink that never refuses one,
and this text is the lines of the program, with a line end between any two. If there are no line
ends in the texts and in the indent, the lines are also what is found between the line ends. -/
theorem run_renders (indentText : String) {p : Program String} (hp : p.WithoutFailure) {sink : κ}
    (hsink : NeverRefuses sink) (halting : Bool) :
    let r := p.run indentText halting (.initial sink)
    let lines := p.lines.map (TextLine.render indentText)
    r.trace.ok = true ∧ r.trace.out = "\n".intercalate lines ∧
      ((∀ stroke ∈ p.strokes 0 0, stroke.OneLine) → '\n' ∉ indentText.toList →
        Text.split '\n' r.trace.out = lines) := by
  intro r lines
  obtain ⟨Q, hQ, hsink⟩ := hsink
  obtain ⟨sink', -, hrun⟩ := writes_program hQ indentText hp 0 0 halting true sink hsink
  have hok : r.trace.ok = true := congrArg Outcome.ok hrun
  have hout : r.trace.out = "\n".intercalate lines :=
    (congrArg Outcome.out hrun).trans (textFrom_true _)
  refine ⟨hok, hout, fun htexts hindent => ?_⟩
  have hne : lines ≠ [] := fun h => linesOf_ne_nil _ (List.map_eq_nil_iff.mp h)
  rw [hout]
  refine Text.split_intercalate hne (List.forall_mem_map.mpr fun l hl => ?_)
  exact not_mem_render hindent fun w hw => htexts _ (text_mem_of_mem_linesOf hl hw)

/-- A block whose body leaves a guard behind. It is dropped in the middle of a later line. -/
def leaky : Program String :=
  .nest (.block "if ready") (.act .indent (.act (.writeln "open()") .done)) <|
  .act (.write "") <| .act (.write "close") <| .act .dedent <| .act (.write "(") <|
  .act (.writeFormatted [.alignedRight 4 "all", .plain ")"]) <| .act .blankLine <|
  .act (.writeln "wait()") .done

theorem run_renders_leaky :
    let lines := ["if ready \x7b", "\t\topen()", "\t\x7d", "\tclose( all)", "", "wait()", ""]
    let r := leaky.run "\t" true (.initial (none : Room))
    leaky.WithoutFailure ∧ NeverRefuses (none : Room) ∧ r.trace.ok = true ∧
      r.trace.out = "\n".intercalate lines ∧ Text.split '\n' r.trace.out = lines := by
  intro lines r
  have hleaky : leaky.WithoutFailure := by simp [leaky, Program.WithoutFailure]
  have hlines : leaky.lines.map (TextLine.render "\t") = lines := by decide
  have htexts : ∀ stroke ∈ leaky.strokes 0 0, stroke.OneLine := by decide
  obtain ⟨hok, hout, hsplit⟩ := run_renders "\t" hleaky neverRefuses_unlimited true
  rw [hlines] at hout hsplit
  exact ⟨hleaky, neverRefuses_unlimited, hok, hout, hsplit htexts (by decide)⟩

end

end GoStubs.Writer
