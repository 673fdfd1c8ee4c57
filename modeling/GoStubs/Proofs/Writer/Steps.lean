import GoStubs.Writer.Program
/-!
# Programs as steps

A program is itself a step of the writer: it delivers a text, succeeds or fails, and leaves a state.
Seen in this way it is put together from the steps of its parts, one after the other and one level
deeper, so what can be said of steps by way of their composition can be said of programs.

A run is also the sequence of the moves that it makes, without any nesting: every text that is
written, and every time that the level changes. Which moves these are depends on the steps that
fail, and therefore on the sink.

* `Step.follow`, `Step.within`: the composition of steps.
* `Program.step_act`, `Program.step_nest`: the step that a program is.
* `Program.moves`: the moves of a run, and `perform_moves`, what they come to.
-/

namespace GoStubs.Writer

variable {κ : Type}

/-! ## Composed steps -/

namespace Step

/-- The first step and after it the second one, also after a failure unless the program is
halting. -/
def follow (halting : Bool) (first second : Step κ) : Step κ := fun s =>
  let a := first s
  if halting && !a.ok then a
  else
    let b := second a.state
    ⟨a.out ++ b.out, a.ok && b.ok, b.state⟩

/-- The step one level deeper; what fails there comes back up as well. -/
def within (x : Step κ) : Step κ := fun s =>
  let a := x s.deeper
  ⟨a.out, a.ok, a.state.shallower⟩

theorem andThen_eq_follow (x y : Step κ) : x.andThen y = x.follow true y := by
  funext s
  cases hx : (x s).ok <;> simp [andThen, follow, hx]

/-- A failure ends a halting program. -/
theorem follow_of_ends {x : Step κ} {s : State κ} {halting : Bool}
    (h : (halting && !(x s).ok) = true) (y : Step κ) : x.follow halting y s = x s := by
  rw [follow, if_pos h]

theorem follow_of_goes_on {x : Step κ} {s : State κ} {halting : Bool}
    (h : (halting && !(x s).ok) = false) (y : Step κ) : x.follow halting y s =
      ⟨(x s).out ++ (y (x s).state).out, (x s).ok && (y (x s).state).ok,
        (y (x s).state).state⟩ := by
  rw [follow, if_neg (Bool.eq_false_iff.mp h)]

theorem follow_false (x y : Step κ) (s : State κ) : x.follow false y s =
    ⟨(x s).out ++ (y (x s).state).out, (x s).ok && (y (x s).state).ok,
      (y (x s).state).state⟩ := rfl

end Step

section

variable [Sink κ]

/-- The step that a frame makes of its body. A body that fails keeps the frame from closing, but not
from coming back to its own level. -/
def Frame.step (indentText : String) (f : Frame String) (body : Step κ) : Step κ :=
  ((f.opening indentText).andThen body.within).andThen (f.closing indentText)

/-! ## The three ways through a frame -/

section

variable {indentText : String} {f : Frame String} {body : Step κ} {s : State κ}

theorem Frame.step_of_not_opened (hopened : (f.opening indentText s).ok = false) :
    f.step indentText body s =
      ⟨(f.opening indentText s).out, false, (f.opening indentText s).state⟩ := by
  have hstep : f.step indentText body s = f.opening indentText s := by
    simp [Frame.step, Step.andThen, hopened]
  rw [hstep, ← hopened]

theorem Frame.step_of_not_ok (hopened : (f.opening indentText s).ok = true)
    (hbody : (body (f.opening indentText s).state.deeper).ok = false) :
    f.step indentText body s =
      ⟨(f.opening indentText s).out ++ (body (f.opening indentText s).state.deeper).out, false,
        (body (f.opening indentText s).state.deeper).state.shallower⟩ := by
  simp [Frame.step, Step.andThen, Step.within, hopened, hbody]

theorem Frame.step_of_ok (hopened : (f.opening indentText s).ok = true)
    (hbody : (body (f.opening indentText s).state.deeper).ok = true) :
    f.step indentText body s =
      let inner := body (f.opening indentText s).state.deeper
      let closed := f.closing indentText inner.state.shallower
      ⟨(f.opening indentText s).out ++ inner.out ++ closed.out, closed.ok, closed.state⟩ := by
  simp [Frame.step, Step.andThen, Step.within, hopened, hbody]

end

/-! ## Programs -/

namespace Program

/-- What all steps of a program come to. -/
def step (indentText : String) (p : Program String) (halting : Bool) : Step κ := fun s =>
  let r := p.run indentText halting s
  ⟨r.trace.out, r.trace.ok, r.state⟩

variable {indentText : String}

theorem step_done (halting : Bool) : (step indentText .done halting : Step κ) = .pass := rfl

theorem step_act (a : Action String) (rest : Program String) (halting : Bool) :
    (step indentText (.act a rest) halting : Step κ) =
      (a.step indentText).follow halting (rest.step indentText halting) := by
  funext s
  simp only [step, run, Step.follow]
  split <;> simp [Trace.out, Trace.ok]

theorem step_nest (f : Frame String) (body rest : Program String) (halting : Bool) :
    (step indentText (.nest f body rest) halting : Step κ) =
      (f.step indentText (body.step indentText true)).follow halting
        (rest.step indentText halting) := by
  funext s
  rw [Step.follow]
  cases hopened : (f.opening indentText s).ok with
  | false =>
    rw [Frame.step_of_not_opened hopened]
    cases halting <;> simp [step, run, Trace.out, Trace.ok, hopened]
  | true =>
    cases hbody : (body.run indentText true (f.opening indentText s).state.deeper).trace.ok with
    | false =>
      rw [Frame.step_of_not_ok hopened hbody]
      cases halting <;> simp [step, run, Step.failure, Trace.out, Trace.ok, hopened, hbody]
    | true =>
      rw [Frame.step_of_ok hopened hbody]
      cases hclosed : (f.closing indentText (body.step indentText true
        (f.opening indentText s).state.deeper).state.shallower).ok <;>
        cases halting <;> simp_all [step, run, Trace.out, Trace.ok]

end Program

/-! ## Moves -/

/-- What a run does at one time: an action, what a frame writes before or after its body, or the
change to the level of the body and back. -/
inductive Move where
  | act (action : Action String)
  | opening (frame : Frame String)
  | enter
  | leave
  | closing (frame : Frame String)

def Move.step (indentText : String) : Move → Step κ
  | act a => a.step indentText
  | opening f => f.opening indentText
  | enter => .update State.deeper
  | leave => .update State.shallower
  | closing f => f.closing indentText

/-- Moves one after the other, whether or not they succeed. -/
def perform (indentText : String) : List Move → Step κ
  | [] => .pass
  | m :: ms => (m.step indentText).follow false (perform indentText ms)

/-- The moves of a frame, given the step that its body is and the moves that this makes. -/
def Frame.moves (indentText : String) (f : Frame String) (body : Step κ)
    (inner : State κ → List Move) (s : State κ) : List Move :=
  let opened := f.opening indentText s
  .opening f ::
    if opened.ok then
      .enter :: (inner opened.state.deeper ++
        .leave :: if (body opened.state.deeper).ok then [.closing f] else [])
    else []

/-- The moves that a program makes from a state. -/
def Program.moves (indentText : String) : Program String → Bool → State κ → List Move
  | done, _, _ => []
  | act a rest, halting, s =>
    let r := a.step indentText s
    .act a :: if halting && !r.ok then [] else moves indentText rest halting r.state
  | nest f body rest, halting, s =>
    let r := f.step indentText (body.step indentText true) s
    f.moves indentText (body.step indentText true) (fun t => moves indentText body true t) s ++
      if halting && !r.ok then [] else moves indentText rest halting r.state

section

variable {indentText : String}

theorem perform_append (ms ns : List Move) (s : State κ) :
    perform indentText (ms ++ ns) s =
      (perform indentText ms).follow false (perform indentText ns) s := by
  induction ms generalizing s with
  | nil => simp [perform, Step.follow, Step.pass, Step.update]
  | cons m ms ih =>
    simp [perform, Step.follow_false, ih, String.append_assoc, Bool.and_assoc]

/-- The moves of a frame come to its step if those of its body do. -/
theorem perform_moves_frame {body : Step κ} {inner : State κ → List Move}
    (h : ∀ t, perform indentText (inner t) t = body t) (f : Frame String) (s : State κ) :
    perform indentText (f.moves indentText body inner s) s = f.step indentText body s := by
  rw [Frame.moves]
  cases hopened : (f.opening indentText s).ok with
  | false =>
    rw [Frame.step_of_not_opened hopened]
    simp [perform, Move.step, Step.follow_false, Step.pass, Step.update, hopened]
  | true =>
    cases hbody : (body (f.opening indentText s).state.deeper).ok with
    | false =>
      rw [Frame.step_of_not_ok hopened hbody]
      simp [perform, perform_append, Move.step, Step.follow_false, Step.pass, Step.update, h,
        hopened, hbody]
    | true =>
      rw [Frame.step_of_ok hopened hbody]
      simp [perform, perform_append, Move.step, Step.follow_false, Step.pass, Step.update, h,
        hopened, hbody, String.append_assoc]

/-- A program is the sequence of its moves: together they deliver the same text, succeed if it does
and leave the same state. -/
theorem perform_moves (p : Program String) (halting : Bool) (s : State κ) :
    perform indentText (p.moves indentText halting s) s = p.step indentText halting s := by
  induction p generalizing halting s with
  | done => rfl
  | act a rest ih =>
    rw [Program.moves, Program.step_act, Step.follow]
    split <;> simp [perform, Move.step, Step.follow_false, Step.pass, Step.update, *]
  | nest f body rest ihb ih =>
    rw [Program.moves, Program.step_nest, Step.follow, perform_append, Step.follow_false,
      perform_moves_frame (ihb true)]
    split <;> simp [perform, Step.pass, Step.update, *]

end

end

/-! ## Properties of all programs -/

/-- Whether a program has no step that is made to fail, in a body or outside. -/
def Program.WithoutFailure : Program String → Prop
  | done => True
  | act .fail _ => False
  | act _ rest => rest.WithoutFailure
  | nest _ body rest => body.WithoutFailure ∧ rest.WithoutFailure

/-- The state with the given sink behind the writer. -/
def State.over (s : State κ) (sink : κ) : State κ := { s with sink }

theorem State.over_of_sink_eq {s : State κ} {sink : κ} (h : s.sink = sink) : s.over sink = s := by
  rw [← h]
  rfl

variable [Sink κ]

/-- Whether a property of steps holds of all that write: of the smallest ones, and of those that are
put together from steps with the property. -/
structure OfWriting (P : Step κ → Prop) : Prop where
  pass : P .pass
  deliver (text : String) : P (deliver text)
  lineStart (b : Bool) : P (.update ({ · with lineStart := b }))
  /-- What the writer knows besides the sink may decide on the step. -/
  choose {f : State κ → Step κ} (hf : ∀ s sink, f (s.over sink) = f s) (h : ∀ s, P (f s)) :
    P fun s => f s s
  follow {x y : Step κ} (halting : Bool) (hx : P x) (hy : P y) : P (x.follow halting y)

namespace OfWriting

variable {P : Step κ → Prop}

theorem andThen (h : OfWriting P) {x y : Step κ} (hx : P x) (hy : P y) : P (x.andThen y) := by
  rw [Step.andThen_eq_follow]
  exact h.follow true hx hy

theorem deliverMargin (h : OfWriting P) (indent : String) (level : Nat) :
    P (deliverMargin indent level) := by
  induction level with
  | zero => exact h.pass
  | succ level ih => exact h.andThen (h.deliver indent) ih

theorem beginLine (h : OfWriting P) (indent : String) : P (beginLine indent) := by
  have hchoose : (Writer.beginLine indent : Step κ) = fun s =>
      (if s.lineStart then
        (Writer.deliverMargin indent s.level).andThen (.update ({ · with lineStart := false }))
      else Step.pass) s := by
    funext s
    rw [Writer.beginLine]
    split <;> rfl
  rw [hchoose]
  refine h.choose (fun _ _ => rfl) fun s => ?_
  split
  · exact h.andThen (h.deliverMargin indent _) (h.lineStart false)
  · exact h.pass

theorem write (h : OfWriting P) (indent text : String) : P (write indent text) := by
  rw [Writer.write]
  split
  · exact h.pass
  · exact h.andThen (h.beginLine indent) (h.deliver text)

theorem newline (h : OfWriting P) : P newline := h.andThen (h.deliver _) (h.lineStart true)

theorem writeln (h : OfWriting P) (indent text : String) : P (writeln indent text) :=
  h.andThen (h.write indent text) h.newline

theorem opening (h : OfWriting P) (indentText : String) (f : Frame String) :
    P (f.opening indentText) := by
  cases f with
  | block header => exact h.andThen (h.write _ _) (h.writeln _ _)
  | blockWith opener closer => exact h.writeln _ _
  | indented => exact h.pass

theorem closing (h : OfWriting P) (indentText : String) (f : Frame String) :
    P (f.closing indentText) := by
  cases f with
  | block header => exact h.writeln _ _
  | blockWith opener closer => exact h.writeln _ _
  | indented => exact h.pass

/-- The other actions do not write. -/
theorem action (h : OfWriting P) {indentText : String} {a : Action String}
    (hindent : a = .indent → P (a.step indentText)) (hdedent : a = .dedent → P (a.step indentText))
    (hfail : a = .fail → P .failure) : P (a.step indentText) := by
  cases a with
  | write text => exact h.write _ _
  | writeln text => exact h.writeln _ _
  | writeFormatted pieces => exact h.writeln _ _
  | blankLine => exact h.newline
  | indent => exact hindent rfl
  | dedent => exact hdedent rfl
  | fail => exact hfail rfl

end OfWriting

/-- Whether a property of steps holds of the smallest ones and is kept when steps are put
together. -/
structure Compositional (P : Step κ → Prop) : Prop where
  deliver (text : String) : P (deliver text)
  /-- The writer may change what it knows besides the sink. -/
  update {f : State κ → State κ} (hf : ∀ s sink, f (s.over sink) = (f s).over sink) :
    P (.update f)
  choose {f : State κ → Step κ} (hf : ∀ s sink, f (s.over sink) = f s) (h : ∀ s, P (f s)) :
    P fun s => f s s
  follow {x y : Step κ} (halting : Bool) (hx : P x) (hy : P y) : P (x.follow halting y)
  within {x : Step κ} (hx : P x) : P x.within

namespace Compositional

variable {P : Step κ → Prop} {indentText : String}

theorem ofWriting (h : Compositional P) : OfWriting P where
  pass := h.update fun _ _ => rfl
  deliver := h.deliver
  lineStart _ := h.update fun _ _ => rfl
  choose := h.choose
  follow := h.follow

theorem action (h : Compositional P) {a : Action String} (hfail : a = .fail → P .failure) :
    P (a.step indentText) := by
  refine h.ofWriting.action (fun ha => ?_) (fun ha => ?_) hfail
  · rw [ha]
    exact h.update fun _ _ => rfl
  · rw [ha]
    refine h.update fun s sink => ?_
    show (if s.held = 0 then _ else _) = State.over (if s.held = 0 then _ else _) sink
    split <;> rfl

theorem move (h : Compositional P) (hfail : P .failure) (m : Move) : P (m.step indentText) := by
  cases m with
  | act a => exact h.action fun _ => hfail
  | opening f => exact h.ofWriting.opening indentText f
  | enter => exact h.update fun _ _ => rfl
  | leave => exact h.update fun _ _ => rfl
  | closing f => exact h.ofWriting.closing indentText f

theorem perform (h : Compositional P) (indentText : String) (hfail : P .failure)
    (ms : List Move) : P (perform indentText ms) := by
  induction ms with
  | nil => exact h.ofWriting.pass
  | cons m ms ih => exact h.follow false (h.move hfail m) ih

/-- Such a property holds of every program, if only it holds of a failure where the program has
one. -/
theorem program (h : Compositional P) (indentText : String) {p : Program String}
    (hfail : ¬ p.WithoutFailure → P .failure) (halting : Bool) : P (p.step indentText halting) := by
  induction p generalizing halting with
  | done =>
    rw [Program.step_done]
    exact h.ofWriting.pass
  | act a rest ih =>
    rw [Program.step_act]
    refine h.follow halting (h.action fun ha => hfail ?_) (ih (fun hrest => hfail ?_) halting)
    · rw [ha]
      exact not_false
    · intro hp
      cases a with
      | fail => exact hp.elim
      | _ => exact hrest hp
  | nest f body rest ihb ih =>
    rw [Program.step_nest]
    have hbody := ihb (fun hb => hfail fun hp => hb hp.1) true
    have hrest := ih (fun hr => hfail fun hp => hr hp.2) halting
    have hopen := h.ofWriting.andThen (h.ofWriting.opening indentText f) (h.within hbody)
    exact h.follow halting (h.ofWriting.andThen hopen (h.ofWriting.closing indentText f)) hrest

end Compositional

end GoStubs.Writer
