import GoStubs.Text.Quoted
/-!
# What can stop a run

Every reason for which no code is generated, and its message to the user.
-/

namespace GoStubs

/-- A reason for which no code is generated. -/
inductive Error where
  /-- The input is no request; a text says why. -/
  | malformedRequest (cause : String)
  /-- A file has neither a `go_package` option nor a mapping. -/
  | noGoPackage (file : String)
  /-- A method mentions a message that no file declares. -/
  | undeclaredMessage (method typeName : String)
  /-- A file to generate is not among the files of the request. -/
  | undescribedFile (file : String)
  /-- A segment of the parameter has a value without a meaning. -/
  | invalidSegment (segment : String)
  /-- The output path of a file does not lie under the module. -/
  | outsideModule (file module : String)
  /-- The generated text could not be written. -/
  | unwritable
  deriving DecidableEq, Repr

namespace Error

open Text

/-- What the user is told. -/
def message : Error → String
  | malformedRequest cause => "invalid CodeGeneratorRequest: " ++ cause
  | noGoPackage file =>
    "unable to determine Go import path for " ++ Quoted.encode file ++
      ": add a go_package option or pass M" ++ file ++ "=<import path>"
  | undeclaredMessage method typeName =>
    "method " ++ method ++ " references unknown message " ++ typeName
  | undescribedFile file => "no descriptor for file to generate " ++ Quoted.encode file
  | invalidSegment segment => "invalid plugin parameter " ++ Quoted.encode segment
  | outsideModule file module =>
    "output path for " ++ Quoted.encode file ++ " is not inside module " ++ Quoted.encode module
  | unwritable =>
    "failed to write generated code: an error occurred when formatting an argument"

/-- Whether the error stands for one of another part: the reader of requests or the writer. -/
def hasCause : Error → Bool
  | malformedRequest _ | unwritable => true
  | noGoPackage _ | undeclaredMessage .. | undescribedFile _ | invalidSegment _
  | outsideModule .. => false

end Error

end GoStubs
