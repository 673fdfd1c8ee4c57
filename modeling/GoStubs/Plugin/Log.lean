import GoStubs.Error
/-!
# The log of a run

What a run reports while it goes on. A computation of the plugin has a log and either a result
or the error that stopped it; its log tells what happened up to then.

* `Event`: what can be reported, with its level, message and fields.
* `Logged`: a computation with its log.
-/

namespace GoStubs.Plugin

/-- How much a report matters. -/
inductive Level where
  | debug
  | warn
  | error
  deriving DecidableEq, Repr

/-- The value of a field of a report. -/
inductive FieldValue where
  | text (s : String)
  /-- A number of things. -/
  | count (n : Nat)
  deriving DecidableEq, Repr

/-- Something that a run reports. -/
inductive Event where
  /-- A segment of the parameter that has no meaning is ignored. -/
  | ignoredSegment (segment : String)
  /-- The messages of a request have been indexed. -/
  | indexed (files messages : Nat)
  /-- The code of a file is about to be generated. -/
  | generatingFile (protoPath output : String) (services : Nat)
  /-- The stub of a service is about to be generated. -/
  | generatingService (service : String) (methods : Nat)
  /-- Nothing is generated because of an error. -/
  | failed (error : Error)
  deriving DecidableEq, Repr

namespace Event

/-- The level of a report. -/
def level : Event → Level
  | ignoredSegment _ => .warn
  | indexed .. | generatingFile .. | generatingService .. => .debug
  | failed _ => .error

/-- The message of a report. -/
def message : Event → String
  | ignoredSegment _ => "ignoring unknown plugin parameter"
  | indexed .. => "indexed request"
  | generatingFile .. => "generating file"
  | generatingService .. => "generating service"
  | failed _ => "generation failed"

/-- The fields of a report. -/
def fields : Event → List (String × FieldValue)
  | ignoredSegment segment => [("param", .text segment)]
  | indexed files messages => [("files", .count files), ("messages", .count messages)]
  | generatingFile protoPath output services =>
    [("proto", .text protoPath), ("output", .text output), ("services", .count services)]
  | generatingService service methods => [("service", .text service), ("methods", .count methods)]
  | failed error => [("error", .text error.message)]

end Event

/-- A computation with its log. -/
structure Logged (α : Type) where
  events : List Event
  /-- The result, or the error that stopped the computation. -/
  result : Except Error α

namespace Logged

variable {α β : Type}

/-- A computation without reports. -/
def ofExcept (result : Except Error α) : Logged α := ⟨[], result⟩

/-- The computation that only reports. -/
def report (event : Event) : Logged Unit := ⟨[event], .ok ()⟩

/-- A computation and, unless it is stopped, the one that its result leads to. -/
def andThen (x : Logged α) (f : α → Logged β) : Logged β :=
  match x.result with
  | .ok a =>
    let y := f a
    ⟨x.events ++ y.events, y.result⟩
  | .error e => ⟨x.events, .error e⟩

instance : Monad Logged where
  pure a := ofExcept (.ok a)
  bind := andThen

end Logged

end GoStubs.Plugin
