import GoStubs.Writer.Sink
/-!
# Programs for an indenting writer

A program says what is written and how deep, without counting tabs: the body of a block stands one
level deeper than the block. Its texts are of a type `τ`, so that the same program can be written
down with names that are not spelled yet and with their spellings.

* `Program`: a sequence of actions and of frames around inner programs.
* `Program.run`: what each step delivers to a sink, which may refuse texts.
* `Program.render`: the whole text, for a sink that takes everything.
-/

namespace GoStubs.Writer

variable {τ σ κ : Type}

/-- A part of a formatted line. -/
inductive Piece (τ : Type) where
  /-- The text as it is. -/
  | plain (text : τ)
  /-- The text, with blanks in front up to the given width. -/
  | alignedRight (width : Nat) (text : τ)

/-- A step without an inner program. -/
inductive Action (τ : Type) where
  | write (text : τ)
  /-- Writes a text and ends the line. -/
  | writeln (text : τ)
  /-- Writes the text that the pieces make and ends the line. -/
  | writeFormatted (pieces : List (Piece τ))
  /-- Ends the line. -/
  | blankLine
  /-- Indents the lines that follow once more. -/
  | indent
  /-- Takes one such indent back, if there is one. -/
  | dedent
  | fail

/-- What stands around an inner program. -/
inductive Frame (τ : Type) where
  /-- A header and a brace in front, a brace behind. -/
  | block (header : τ)
  /-- A line in front and a line behind. -/
  | blockWith (opener closer : τ)
  /-- Nothing; the inner program is only indented. -/
  | indented

/-- A program for the writer. -/
inductive Program (τ : Type) where
  | done
  /-- An action and what follows it. -/
  | act (action : Action τ) (rest : Program τ)
  /-- A frame around an inner program, and what follows it. -/
  | nest (frame : Frame τ) (body rest : Program τ)

/-! ## Building programs -/

namespace Program

/-- One program after the other. -/
def append : Program τ → Program τ → Program τ
  | done, q => q
  | act a rest, q => act a (append rest q)
  | nest f body rest, q => nest f body (append rest q)

instance : Append (Program τ) := ⟨append⟩

/-- The programs of a list, one after the other. -/
def concat : List (Program τ) → Program τ
  | [] => done
  | p :: ps => p ++ concat ps

/-- The program that writes one line. -/
def line (text : τ) : Program τ := act (.writeln text) done

/-- The program that writes an empty line. -/
def blankLine : Program τ := act .blankLine done

/-- A header with a brace, the body and a closing brace. -/
def block (header : τ) (body : Program τ) : Program τ := nest (.block header) body done

/-- A line, the body and a closing line. -/
def blockWith (opener closer : τ) (body : Program τ) : Program τ :=
  nest (.blockWith opener closer) body done

end Program

/-! ## Changing the texts of a program -/

/-- The piece with its text changed. -/
def Piece.map (f : τ → σ) : Piece τ → Piece σ
  | plain text => plain (f text)
  | alignedRight width text => alignedRight width (f text)

/-- The action with its texts changed. -/
def Action.map (f : τ → σ) : Action τ → Action σ
  | write text => write (f text)
  | writeln text => writeln (f text)
  | writeFormatted pieces => writeFormatted (pieces.map (Piece.map f))
  | blankLine => blankLine
  | indent => indent
  | dedent => dedent
  | fail => fail

/-- The frame with its texts changed. -/
def Frame.map (f : τ → σ) : Frame τ → Frame σ
  | block header => block (f header)
  | blockWith opener closer => blockWith (f opener) (f closer)
  | indented => indented

/-- The program with its texts changed. -/
def Program.map (f : τ → σ) : Program τ → Program σ
  | done => done
  | act a rest => act (a.map f) (rest.map f)
  | nest frame body rest => nest (frame.map f) (body.map f) (rest.map f)

/-! ## Running a program -/

/-- The text of a piece. -/
def Piece.text : Piece String → String
  | plain s => s
  | alignedRight width s => String.ofList (List.replicate (width - s.length) ' ') ++ s

section

variable [Sink κ]

/-- The step that an action is. -/
def Action.step (indentText : String) : Action String → Step κ
  | write text => Writer.write indentText text
  | writeln text => Writer.writeln indentText text
  | writeFormatted pieces => Writer.writeln indentText (String.join (pieces.map Piece.text))
  | blankLine => newline
  | indent => Step.update fun s => { s.deeper with held := s.held + 1 }
  | dedent => Step.update fun s => if s.held = 0 then s else { s.shallower with held := s.held - 1 }
  | fail => Step.failure

/-- What a frame writes before its body. -/
def Frame.opening (indentText : String) : Frame String → Step κ
  | block header => (write indentText header).andThen (writeln indentText " \x7b")
  | blockWith opener _ => writeln indentText opener
  | indented => Step.pass

/-- What a frame writes after its body. -/
def Frame.closing (indentText : String) : Frame String → Step κ
  | block _ => writeln indentText "\x7d"
  | blockWith _ closer => writeln indentText closer
  | indented => Step.pass

end

/-- What the steps of a program delivered, one entry a step that ran. -/
inductive Trace where
  /-- No further step ran. -/
  | done
  /-- A step whose inner program, if it has one, was not reached. -/
  | step (ok : Bool) (out : String) (rest : Trace)
  /-- A step whose inner program ran. -/
  | nested (ok : Bool) (out : String) (inner rest : Trace)
  deriving Repr

/-- All that the steps delivered. -/
def Trace.out : Trace → String
  | done => ""
  | step _ out rest => out ++ rest.out
  | nested _ out _ rest => out ++ rest.out

/-- Whether every step succeeded. -/
def Trace.ok : Trace → Bool
  | done => true
  | step ok _ rest => ok && rest.ok
  | nested ok _ _ rest => ok && rest.ok

/-- What comes of a program. -/
structure Run (κ : Type) where
  /-- What its steps delivered. -/
  trace : Trace
  state : State κ

namespace Program

/-- Runs a program. A body inside a frame ends with its first step that fails, and the frame then
fails without its closing text; `halting` says whether the program itself ends so too. -/
def run [Sink κ] (indentText : String) : Program String → (halting : Bool) → State κ → Run κ
  | done, _, s => ⟨.done, s⟩
  | act a rest, halting, s =>
    let r := a.step indentText s
    if halting && !r.ok then ⟨.step r.ok r.out .done, r.state⟩
    else
      let t := run indentText rest halting r.state
      ⟨.step r.ok r.out t.trace, t.state⟩
  | nest f body rest, halting, s =>
    let opened := f.opening indentText s
    if !opened.ok then
      if halting then ⟨.step false opened.out .done, opened.state⟩
      else
        let t := run indentText rest halting opened.state
        ⟨.step false opened.out t.trace, t.state⟩
    else
      let inner := run indentText body true opened.state.deeper
      let outer := inner.state.shallower
      let closed := if inner.trace.ok then f.closing indentText outer else Step.failure outer
      let out := opened.out ++ inner.trace.out ++ closed.out
      if halting && !closed.ok then ⟨.nested closed.ok out inner.trace .done, closed.state⟩
      else
        let t := run indentText rest halting closed.state
        ⟨.nested closed.ok out inner.trace t.trace, t.state⟩

/-- The whole text of a program, unless one of its steps fails. -/
def render? (indentText : String) (p : Program String) : Option String :=
  let r := p.run indentText true (.initial (none : Room))
  if r.trace.ok then some r.trace.out else none

end Program

end GoStubs.Writer
