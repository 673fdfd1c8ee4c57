import GoStubs.Rpc.Routing
import GoStubs.Stub.Handle
/-!
# Implementing a service

For a service, the interface that an implementation satisfies and the function that registers
one with a server: under the service's name, a map of unary methods and a map of streaming ones.

* `implementationSpec`: a method of the interface.
* `registration`: the two maps.
-/

namespace GoStubs.Stub

open GoStubs.Go GoStubs.Rpc

/-! ## The interface -/

/-- The method of the interface. A method that streams takes its handle after the request or in
place of it, and returns a response only if it does not stream responses. -/
def implementationSpec (s : Service) (m : Method) : MethodSpec :=
  match m.flow with
  | .unary => ⟨m.goName, [contextTy, inputTy m], [outputTy m, .error]⟩
  | .clientStreaming => ⟨m.goName, [contextTy, handleTy s m .server], [outputTy m, .error]⟩
  | .serverStreaming => ⟨m.goName, [contextTy, inputTy m, handleTy s m .server], [.error]⟩
  | .bidirectional => ⟨m.goName, [contextTy, handleTy s m .server], [.error]⟩

/-- The interface that an implementation of the service satisfies. -/
def implementationInterface (s : Service) : Decl :=
  .interface (serviceInterface s.goName) (s.methods.map (implementationSpec s)) none

/-! ## Registration -/

/-- The results of every handler. -/
def handlerResults : List Ty := [.anything, .error]

/-- The row of a unary method: it decodes the request and calls the implementation. -/
def methodRow (key : String) (m : Method) : MethodRow where
  key
  handler :=
    { params := [⟨"ctx", contextTy⟩, ⟨"unmarshal", .decoder⟩]
      results := handlerResults
      body :=
        [.declare "req" (.named m.input), .attempt ⟨["unmarshal"], [.address "req"]⟩,
         .returnsCall [] ⟨["svc", m.goName], [.var "ctx", .address "req"]⟩] }

/-- The row of a streaming method: unless the client streams, it receives the request; then it calls
the implementation with a handle on the stream. -/
def streamRow (s : Service) (row : StreamingRow Method) : StreamRow where
  key := row.key
  handler :=
    { params := [⟨"ctx", contextTy⟩, ⟨"stream", .named streamServerIdent⟩]
      results := handlerResults
      body :=
        (if row.clientStreams then []
        else
          [.allocate "m" (.named row.method.input),
           .attempt ⟨["stream", "RecvMsg"], [.var "m"]⟩]) ++
        [.returnsCall (if row.serverStreams then [.nil] else [])
          ⟨["svc", row.method.goName],
           [.var "ctx"] ++ (if row.clientStreams then [] else [.var "m"]) ++
            [.wrapped (handleWrapper s row.method .server) "stream"]⟩] }
  clientStreaming := row.clientStreams
  serverStreaming := row.serverStreams

/-- The routing of a service: each method under its Go name. -/
def routing (s : Service) : Routing Method :=
  .ofMethods s.fullName (s.methods.map fun m => (m.goName, m.flow, m))

/-- The registration of a service. -/
def registration (s : Service) : Registration where
  service := (routing s).service
  descriptor := .named serviceDescIdent
  methodType := .named methodIdent
  methods := (routing s).unary.map fun (key, m) => methodRow key m
  streamType := .named streamIdent
  streams := (routing s).streaming.map (streamRow s)

/-- The function that registers an implementation with a server. -/
def registerFunc (s : Service) : Func where
  receiver := none
  name := registerFunction s.goName
  params :=
    [⟨"srv", .pointer (.named serverIdent)⟩, ⟨"svc", .declared (serviceInterface s.goName)⟩]
  results := []
  body := .registers (registration s)

/-- All declarations that an implementation needs. -/
def implementationSections (s : Service) : List Section :=
  [[implementationInterface s]] ++ s.methods.flatMap (handleSections s · .server) ++
    [[.func (registerFunc s)]]

end GoStubs.Stub
