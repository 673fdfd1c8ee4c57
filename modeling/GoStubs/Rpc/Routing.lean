import GoStubs.Rpc.Flow
/-!
# Routing calls to methods

A server finds the code for an incoming call by the name of the service and then by the name of
the method, in one of two maps: one for unary methods and one for all others. The routing of a
service says which method goes where and under which key. It carries for each method whatever
the caller has at hand, of type `μ`.

* `Routing.unary`, `Routing.streaming`: the rows of the two maps.
-/

namespace GoStubs.Rpc

/-- How a call reaches one method. -/
inductive Route (μ : Type) where
  /-- One request is decoded and the method's response returned. -/
  | unary (method : μ)
  /-- The method gets a handle on a stream; a request is decoded beforehand only if the client does
  not stream. -/
  | streaming (method : μ) (clientStreams serverStreams : Bool)

/-- One row of the map of streaming methods. -/
structure StreamingRow (μ : Type) where
  key : String
  /-- What the routing carries for the method. -/
  method : μ
  clientStreams : Bool
  serverStreams : Bool

/-- The methods of one service, each under its key, in the order of their declaration. -/
structure Routing (μ : Type) where
  /-- The name under which the service is registered. -/
  service : String
  /-- The key and the route of each method. -/
  routes : List (String × Route μ)

variable {μ : Type}

/-- The route to a method with the given flow. -/
def Route.ofFlow (method : μ) (flow : Flow) : Route μ :=
  if flow.streams then streaming method flow.streamsRequests flow.streamsResponses
  else unary method

namespace Routing

/-- The routing of a service whose methods are given with their keys and flows. -/
def ofMethods (service : String) (methods : List (String × Flow × μ)) : Routing μ where
  service
  routes := methods.map fun (key, flow, method) => (key, .ofFlow method flow)

/-- The rows of the map of unary methods. -/
def unary (r : Routing μ) : List (String × μ) :=
  r.routes.filterMap fun
    | (key, .unary method) => some (key, method)
    | (_, .streaming ..) => none

/-- The rows of the map of streaming methods. -/
def streaming (r : Routing μ) : List (StreamingRow μ) :=
  r.routes.filterMap fun
    | (_, .unary _) => none
    | (key, .streaming method client server) => some ⟨key, method, client, server⟩

end Routing

end GoStubs.Rpc
