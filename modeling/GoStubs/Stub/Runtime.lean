import GoStubs.Go.Syntax
/-!
# What stubs need at run time

Every stub refers to the context of a call and to the types of the runtime library that carries
calls. A file mentions all of them before any message type, whatever the service needs, so that
their packages always get the first aliases.
-/

namespace GoStubs.Stub

open GoStubs.Go

/-- The import path of the runtime library. -/
def runtimePath : String := "github.com/containerd/ttrpc"

/-- A type of the runtime library. -/
def runtimeIdent (name : String) : Ident := ⟨runtimePath, name⟩

def contextIdent : Ident := ⟨"context", "Context"⟩

def serverIdent : Ident := runtimeIdent "Server"

def clientIdent : Ident := runtimeIdent "Client"

/-- The row of a unary method. -/
def methodIdent : Ident := runtimeIdent "Method"

/-- The row of a streaming method. -/
def streamIdent : Ident := runtimeIdent "Stream"

/-- The description of a service. -/
def serviceDescIdent : Ident := runtimeIdent "ServiceDesc"

/-- The description of a stream. -/
def streamDescIdent : Ident := runtimeIdent "StreamDesc"

/-- The server's end of a stream. -/
def streamServerIdent : Ident := runtimeIdent "StreamServer"

/-- The client's end of a stream. -/
def clientStreamIdent : Ident := runtimeIdent "ClientStream"

/-- Everything that a stub refers to, in the order of mention. -/
def runtimeIdents : List Ident :=
  [contextIdent, serverIdent, clientIdent, methodIdent, streamIdent, serviceDescIdent,
   streamDescIdent, streamServerIdent, clientStreamIdent]

def contextTy : Ty := .named contextIdent

end GoStubs.Stub
