import GoStubs.Rpc.Flow
import GoStubs.Text.Lower
/-!
# Names of generated declarations

Code generated at different times has to work together, so the name of everything that is declared
for a service is fixed here, as a function of the Go names of the service and of the method.
-/

namespace GoStubs.Stub

open GoStubs.Rpc

/-- The text with its first character in lower case, as far as that is an ASCII letter. -/
def decapitalize (s : String) : String :=
  match s.toList with
  | [] => ""
  | c :: cs => String.ofList (c.toLower :: cs)

/-- The interface that a server implements. -/
def serviceInterface (service : String) : String := service ++ "Service"

/-- The function that registers an implementation with a server. -/
def registerFunction (service : String) : String := "Register" ++ serviceInterface service

/-- The interface of a client, where it differs from the one of the server. -/
def clientInterface (service : String) : String := service ++ "Client"

/-- The unexported structure behind a client. -/
def clientStruct (service : String) : String := decapitalize (clientInterface service)

/-- The function that makes a client. -/
def clientConstructor (service : String) : String := "New" ++ clientInterface service

/-- The word that ends the names of one side's stream types. -/
def sideSuffix : Side → String
  | .server => "Server"
  | .client => "Client"

/-- The interface of one side's handle on a streaming method. -/
def streamInterface (service method : String) (side : Side) : String :=
  service ++ "_" ++ method ++ sideSuffix side

/-- The unexported structure that implements a stream interface. -/
def streamWrapper (service method : String) (side : Side) : String :=
  Text.lower service ++ method ++ sideSuffix side

end GoStubs.Stub
