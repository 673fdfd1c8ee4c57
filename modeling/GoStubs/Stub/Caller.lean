import GoStubs.Stub.Implementation
/-!
# Calling a service

For a service, the client structure with its constructor and, for each method, the code of a
call; right after the call of a streaming method, the client's handle on its streams. A client
of a service without streaming methods satisfies the interface of implementations itself;
otherwise it has an interface of its own.

* `callerSpec`: a method of the client interface.
* `callBody`: the code of a call.
-/

namespace GoStubs.Stub

open GoStubs.Go GoStubs.Rpc

/-! ## The interface -/

/-- The method of the client interface. A call of a streaming method returns its handle, and
takes a request only if the client does not stream. -/
def callerSpec (s : Service) (m : Method) : MethodSpec :=
  match m.flow with
  | .unary => ⟨m.goName, [contextTy, inputTy m], [outputTy m, .error]⟩
  | .serverStreaming => ⟨m.goName, [contextTy, inputTy m], [handleTy s m .client, .error]⟩
  | .clientStreaming | .bidirectional =>
    ⟨m.goName, [contextTy], [handleTy s m .client, .error]⟩

/-- The interface of a client, where it has one of its own. -/
def callerInterfaceSections (s : Service) : List Section :=
  if s.hasStreams then
    [[.interface (clientInterface s.goName) (s.methods.map (callerSpec s)) none]]
  else []

/-- The interface that a client satisfies. -/
def returnedInterface (s : Service) : String :=
  if s.hasStreams then clientInterface s.goName else serviceInterface s.goName

/-- The function that makes a client. -/
def constructorFunc (s : Service) : Func where
  receiver := none
  name := clientConstructor s.goName
  params := [⟨"client", .pointer (.named clientIdent)⟩]
  results := [.declared (returnedInterface s)]
  body := .statements [.returnsNew (clientStruct s.goName) "client" "client"]

/-- The client structure and its constructor. -/
def callerSection (s : Service) : Section :=
  [.struct (clientStruct s.goName) (some "client") (.pointer (.named clientIdent)),
   .func (constructorFunc s)]

/-! ## Calls -/

/-- The body of a unary call, which names the method as it is declared. -/
def unaryCall (s : Service) (m : Method) : List Stmt :=
  [.declare "resp" (.named m.output),
   .attempt
    ⟨["c", "client", "Call"],
     [.var "ctx", .literal s.fullName, .literal m.name, .var "req", .address "resp"]⟩,
   .returns [.address "resp", .nil]]

/-- The body of a streaming call, which names the method as the routing does. -/
def streamingCall (s : Service) (m : Method) : List Stmt :=
  [.openStream
    { descriptor := .named streamDescIdent
      clientStreaming := m.flow.streamsRequests
      serverStreaming := m.flow.streamsResponses
      service := s.fullName
      method := m.goName
      request := if m.flow.streamsRequests then .nil else .var "req" },
   .returnError,
   .assign "x" (.wrapped (handleWrapper s m .client) "stream"),
   .returns [.var "x", .nil]]

/-- The body of a call. -/
def callBody (s : Service) (m : Method) : List Stmt :=
  if m.flow.streams then streamingCall s m else unaryCall s m

/-- The receiver of the methods of the client structure. -/
def callerReceiver (s : Service) : Param := ⟨"c", .pointer (.declared (clientStruct s.goName))⟩

/-- The method of the client structure. -/
def callFunc (s : Service) (m : Method) : Func where
  receiver := some (callerReceiver s)
  name := m.goName
  params := ⟨"ctx", contextTy⟩ :: if m.flow.streamsRequests then [] else [⟨"req", inputTy m⟩]
  results := [if m.flow.streams then handleTy s m .client else outputTy m, .error]
  body := .statements (callBody s m)

/-- All declarations that a caller needs. -/
def callerSections (s : Service) : List Section :=
  callerInterfaceSections s ++ [callerSection s] ++
    s.methods.flatMap fun m => [[.func (callFunc s m)]] ++ handleSections s m .client

end GoStubs.Stub
