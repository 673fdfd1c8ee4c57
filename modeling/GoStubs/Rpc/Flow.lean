/-!
# The flow of messages in a call

A method streams its requests or not, and its responses or not. Each end of a streaming call has a
handle on the stream; which messages flow decides what can be done with it.

* `Flow`: the four combinations.
* `Flow.operations`: what a side's handle can do.
-/

namespace GoStubs.Rpc

/-- How requests and responses flow in a call. -/
inductive Flow where
  /-- One request, one response. -/
  | unary
  /-- A stream of requests, one response. -/
  | clientStreaming
  /-- One request, a stream of responses. -/
  | serverStreaming
  /-- A stream of requests and a stream of responses. -/
  | bidirectional
  deriving DecidableEq, Repr

/-- An end of a call. -/
inductive Side where
  | server
  | client
  deriving DecidableEq, Repr

/-- What can be done with a handle on a stream. -/
inductive Operation where
  | send
  | receive
  /-- Ends the messages of this side and receives the only one of the other. -/
  | closeAndReceive
  deriving DecidableEq, Repr

namespace Flow

/-- The flow in a method with the given streaming flags. -/
def ofFlags : (clientStreams serverStreams : Bool) → Flow
  | false, false => unary
  | true, false => clientStreaming
  | false, true => serverStreaming
  | true, true => bidirectional

/-- Whether the client sends a stream of requests. -/
def streamsRequests : Flow → Bool
  | clientStreaming | bidirectional => true
  | unary | serverStreaming => false

/-- Whether the server sends a stream of responses. -/
def streamsResponses : Flow → Bool
  | serverStreaming | bidirectional => true
  | unary | clientStreaming => false

/-- Whether either side sends a stream. -/
def streams (f : Flow) : Bool := f.streamsRequests || f.streamsResponses

/-- What a side's handle can do; a unary call has no handles. A side sends what it streams and
receives what the other side streams; a client that gets one response receives it at the end. -/
def operations : Flow → Side → List Operation
  | unary, _ => []
  | clientStreaming, .server => [.receive]
  | clientStreaming, .client => [.send, .closeAndReceive]
  | serverStreaming, .server => [.send]
  | serverStreaming, .client => [.receive]
  | bidirectional, _ => [.send, .receive]

@[simp] theorem streamsRequests_ofFlags (c s : Bool) : (ofFlags c s).streamsRequests = c := by
  cases c <;> cases s <;> rfl

@[simp] theorem streamsResponses_ofFlags (c s : Bool) : (ofFlags c s).streamsResponses = s := by
  cases c <;> cases s <;> rfl

@[simp] theorem streams_ofFlags (c s : Bool) : (ofFlags c s).streams = (c || s) := by
  cases c <;> cases s <;> rfl

end Flow

end GoStubs.Rpc
