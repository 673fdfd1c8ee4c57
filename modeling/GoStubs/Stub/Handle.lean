import GoStubs.Rpc.Model
import GoStubs.Stub.Names
import GoStubs.Stub.Runtime
/-!
# Handles on streams

For each streaming method, either side has a handle: an interface with the operations that the
flow of the method allows, and an unexported structure that implements it over the runtime's end
of the stream. Both are made from the same list of operations.

* `operationSpec`: an operation as a method of the interface.
* `operationFunc`: an operation as a method of the structure.
* `handleSections`: all declarations of a handle.
-/

namespace GoStubs.Stub

open GoStubs.Go GoStubs.Rpc

def inputTy (m : Method) : Ty := .pointer (.named m.input)

def outputTy (m : Method) : Ty := .pointer (.named m.output)

/-- The interface of a side's handle. -/
def handleTy (s : Service) (m : Method) (side : Side) : Ty :=
  .declared (streamInterface s.goName m.goName side)

/-- The structure behind a side's handle. -/
def handleWrapper (s : Service) (m : Method) (side : Side) : String :=
  streamWrapper s.goName m.goName side

/-- The runtime's end of a stream, which a handle embeds. -/
def streamEnd : Side → Ident
  | .server => streamServerIdent
  | .client => clientStreamIdent

/-- The message that an operation moves: the client sends requests and the server responses. -/
def operationMessage (m : Method) : Side → Operation → Ident
  | .server, .send => m.output
  | .client, .send => m.input
  | .server, .receive | .server, .closeAndReceive => m.input
  | .client, .receive | .client, .closeAndReceive => m.output

def operationName : Operation → String
  | .send => "Send"
  | .receive => "Recv"
  | .closeAndReceive => "CloseAndRecv"

/-- The parameters of an operation: the message that is sent. -/
def operationParams (message : Ident) : Operation → List Param
  | .send => [⟨"m", .pointer (.named message)⟩]
  | .receive | .closeAndReceive => []

/-- The results of an operation: the message that is received, and an error. -/
def operationResults (message : Ident) : Operation → List Ty
  | .send => [.error]
  | .receive | .closeAndReceive => [.pointer (.named message), .error]

/-- An operation as a method of the handle's interface. -/
def operationSpec (m : Method) (side : Side) (op : Operation) : MethodSpec :=
  let message := operationMessage m side op
  ⟨operationName op, (operationParams message op).map (·.ty), operationResults message op⟩

/-- The call of a method of the runtime's end of the stream inside a handle. -/
def endCall (side : Side) (method : String) (args : List Operand) : Call :=
  ⟨["x", (streamEnd side).name, method], args⟩

/-- Receives one message and returns it. -/
def receiveOne (side : Side) (message : Ident) : List Stmt :=
  [.allocate "m" (.named message), .attempt (endCall side "RecvMsg" [.var "m"]),
   .returns [.var "m", .nil]]

/-- The body of an operation. -/
def operationBody (side : Side) (message : Ident) : Operation → List Stmt
  | .send => [.returnsCall [] (endCall side "SendMsg" [.var "m"])]
  | .receive => receiveOne side message
  | .closeAndReceive => .attempt (endCall side "CloseSend" []) :: receiveOne side message

/-- The receiver of the methods of the structure behind a handle. -/
def handleReceiver (s : Service) (m : Method) (side : Side) : Param :=
  ⟨"x", .pointer (.declared (handleWrapper s m side))⟩

/-- An operation as a method of the structure behind a handle. -/
def operationFunc (s : Service) (m : Method) (side : Side) (op : Operation) : Func :=
  let message := operationMessage m side op
  { receiver := some (handleReceiver s m side)
    name := operationName op
    params := operationParams message op
    results := operationResults message op
    body := .statements (operationBody side message op) }

/-- The interface of a handle. -/
def handleInterface (s : Service) (m : Method) (side : Side) : Decl :=
  .interface (streamInterface s.goName m.goName side)
    ((m.flow.operations side).map (operationSpec m side)) (some (.named (streamEnd side)))

/-- The structure behind a handle. -/
def handleStruct (s : Service) (m : Method) (side : Side) : Decl :=
  .struct (handleWrapper s m side) none (.named (streamEnd side))

/-- A side's handle on a method, for a method that streams. -/
def handleSections (s : Service) (m : Method) (side : Side) : List Section :=
  if m.flow.streams then
    [[handleInterface s m side], [handleStruct s m side]] ++
      (m.flow.operations side).map fun op => [.func (operationFunc s m side op)]
  else []

end GoStubs.Stub
