import GoStubs.Plugin.Generate
import GoStubs.Wire.Request
import GoStubs.Wire.Response
/-!
# The plugin as a program

Without arguments, the program reads a request from its input and writes the response to its
output; a run that fails is still a success of the program, whose response then carries the
error. Only bytes that are no request, and arguments that it does not know, make the program
itself fail, and then it writes nothing.

* `answer`: the response to an encoded request.
* `execute`: what the program does with its arguments and its input.
-/

namespace GoStubs.Plugin

/-- The name and the version of the program. -/
def versionText : String := "protoc-gen-go-ttrpc 0.1.0\n"

/-- Why bytes are refused that encode no request. -/
def malformedCause : String := "the bytes do not encode a request"

/-- The request that bytes encode. -/
def readRequest (bytes : List UInt8) : Except Error Proto.Request :=
  match Wire.decodeRequest bytes with
  | some request => .ok request
  | none => .error (.malformedRequest malformedCause)

/-- The encoded response to an encoded request, and what the run reports. -/
def answer (bytes : List UInt8) : Except Error (List Event × List UInt8) :=
  (readRequest bytes).map fun request =>
    let (events, response) := respond request
    (events, Wire.encodeResponse response)

/-- What arguments ask for. -/
inductive Command where
  /-- To answer the request on the input. -/
  | answer
  /-- To tell the version. -/
  | version
  deriving DecidableEq, Repr

/-- What arguments ask for, if they are known. -/
def Command.parse? : List String → Option Command
  | [] => some .answer
  | ["--version"] => some .version
  | _ => none

/-- What the program does. -/
structure Execution where
  exitCode : Nat
  /-- What it writes to its output. -/
  output : List UInt8
  /-- What it tells the user. -/
  messages : List String
  deriving DecidableEq, Repr

/-- The program that fails with a message. -/
def Execution.failed (message : String) : Execution := ⟨1, [], ["Error: " ++ message]⟩

/-- The reports of a run that the user sees: all but those for debugging. -/
def shownReports (events : List Event) : List String :=
  (events.filter (·.level ≠ .debug)).map (·.message)

/-- What the program does with its arguments and the bytes of its input. -/
def execute (args : List String) (input : List UInt8) : Execution :=
  match Command.parse? args with
  | none => .failed "unknown arguments"
  | some .version => ⟨0, Wire.utf8Bytes versionText, []⟩
  | some .answer =>
    match answer input with
    | .ok (events, output) => ⟨0, output, shownReports events⟩
    | .error e => .failed e.message

end GoStubs.Plugin
