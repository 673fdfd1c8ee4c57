import GoStubs.Go.Package
import GoStubs.Rpc.Flow
/-!
# Services to generate code for

What code generation needs to know about a file: its Go package, and for each service and method
the names on the wire and in Go, the identity of the message types and the streaming flags.
-/

namespace GoStubs.Rpc

/-- A method of a service. -/
structure Method where
  /-- The name as it is declared. -/
  name : String
  goName : String
  input : Go.Ident
  output : Go.Ident
  clientStreaming : Bool
  serverStreaming : Bool
  deriving DecidableEq, Repr

/-- The flow of messages in a method. -/
def Method.flow (m : Method) : Flow := .ofFlags m.clientStreaming m.serverStreaming

/-- A service. -/
structure Service where
  /-- The name with its package, under which the service is registered. -/
  fullName : String
  goName : String
  methods : List Method
  deriving DecidableEq, Repr

/-- Whether some method of the service streams. -/
def Service.hasStreams (s : Service) : Bool := s.methods.any (·.flow.streams)

/-- A file that declares services. -/
structure File where
  /-- The path of the file, as the request names it. -/
  protoPath : String
  package : Go.Package
  services : List Service
  deriving DecidableEq, Repr

end GoStubs.Rpc
