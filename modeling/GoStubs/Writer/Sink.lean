/-!
# Writing into a sink

The state of a writer that indents, and its smallest steps. The sink behind the writer is anything
that texts can be handed to: it may refuse a text, and then the step fails.

* `Sink`: what a writer needs of a sink; a `Room` is one that takes a number of characters.
* `Step`: what a step delivers, whether it succeeds and the state after it.
* `Step.andThen`: a second step runs only after a success.
* `deliver`: hands a text to the sink as it is.
-/

namespace GoStubs.Writer

variable {κ : Type}

/-! ## Sinks -/

/-- What comes of a text that is handed to a sink. -/
structure Reception (κ : Type) where
  /-- The text that the sink received. -/
  out : String
  ok : Bool
  /-- The sink after it. -/
  sink : κ

/-- Something that texts can be handed to. Of a text that it refuses it may keep any part. -/
class Sink (κ : Type) where
  receive : κ → String → Reception κ

/-- How many characters a sink still takes; without a number, it takes every text. -/
abbrev Room := Option Nat

/-- Of a text that no longer fits, the part that fits is kept. -/
instance : Sink Room where
  receive
    | none, text => ⟨text, true, none⟩
    | some n, text =>
      if text.length ≤ n then ⟨text, true, some (n - text.length)⟩
      else ⟨String.ofList (text.toList.take n), false, some 0⟩

/-! ## States and steps -/

/-- What a writer knows between two steps. -/
structure State (κ : Type) where
  sink : κ
  /-- How many times the next line is indented. -/
  level : Nat
  /-- How many indents have been asked for and not yet taken back, those of open blocks apart. -/
  held : Nat
  /-- Whether nothing has been written on the current line. -/
  lineStart : Bool
  deriving DecidableEq, Repr

/-- The state in which nothing has been written. -/
def State.initial (sink : κ) : State κ := ⟨sink, 0, 0, true⟩

/-- The state one level deeper. -/
def State.deeper (s : State κ) : State κ := { s with level := s.level + 1 }

/-- The state one level up, the outermost level being its own parent. -/
def State.shallower (s : State κ) : State κ := { s with level := s.level - 1 }

/-- What comes of a step. -/
structure Outcome (κ : Type) where
  /-- The text that the sink received. -/
  out : String
  ok : Bool
  state : State κ

/-- A step of the writer. -/
abbrev Step (κ : Type) := State κ → Outcome κ

/-- The step that only changes the state. -/
def Step.update (f : State κ → State κ) : Step κ := fun s => ⟨"", true, f s⟩

/-- The step that does nothing and succeeds. -/
def Step.pass : Step κ := Step.update id

/-- The step that does nothing and fails. -/
def Step.failure : Step κ := fun s => ⟨"", false, s⟩

/-- The first step and, if it succeeds, the second one. -/
def Step.andThen (first second : Step κ) : Step κ := fun s =>
  let a := first s
  if a.ok then
    let b := second a.state
    ⟨a.out ++ b.out, b.ok, b.state⟩
  else a

/-! ## Writing -/

section

variable [Sink κ]

/-- Hands a text to the sink. -/
def deliver (text : String) : Step κ := fun s =>
  let r := Sink.receive s.sink text
  ⟨r.out, r.ok, { s with sink := r.sink }⟩

/-- Hands the text in front of a line to the sink, one indent after the other. -/
def deliverMargin (indent : String) : Nat → Step κ
  | 0 => Step.pass
  | level + 1 => (deliver indent).andThen (deliverMargin indent level)

/-- Indents the line, if nothing has been written on it. -/
def beginLine (indent : String) : Step κ := fun s =>
  if s.lineStart then
    (deliverMargin indent s.level).andThen (.update ({ · with lineStart := false })) s
  else Step.pass s

/-- Writes a text on the current line; an empty one leaves the line as it is. -/
def write (indent text : String) : Step κ :=
  if text = "" then Step.pass else (beginLine indent).andThen (deliver text)

/-- Ends the current line. -/
def newline : Step κ := (deliver "\n").andThen (.update ({ · with lineStart := true }))

/-- Writes a text and ends the line. -/
def writeln (indent text : String) : Step κ := (write indent text).andThen newline

end

/-! ## Margins -/

/-- The text in front of a line at a level. -/
def margin (indent : String) (level : Nat) : String := String.join (List.replicate level indent)

@[simp] theorem margin_zero (indent : String) : margin indent 0 = "" := rfl

@[simp] theorem margin_succ (indent : String) (level : Nat) :
    margin indent (level + 1) = indent ++ margin indent level := by
  simp [margin, List.replicate_succ]

/-! ## A sink that takes every text -/

@[simp] theorem deliver_unlimited (text : String) (level held : Nat) (lineStart : Bool) :
    deliver text (⟨none, level, held, lineStart⟩ : State Room) =
      ⟨text, true, ⟨none, level, held, lineStart⟩⟩ := rfl

/-- The sink receives the margin as a whole. -/
@[simp] theorem deliverMargin_unlimited (indent : String) (n level held : Nat) (lineStart : Bool) :
    deliverMargin indent n (⟨none, level, held, lineStart⟩ : State Room) =
      ⟨margin indent n, true, ⟨none, level, held, lineStart⟩⟩ := by
  induction n with
  | zero => rfl
  | succ n ih => simp [deliverMargin, Step.andThen, ih]

end GoStubs.Writer
