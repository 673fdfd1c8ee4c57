import GoStubs.Proofs.Stub.Registration
/-!
# Client and server agree on streams

A client opens a stream under the names of the service and of the method, with two flags and
perhaps a request; the server finds the method by these names, has flags of its own and perhaps
receives a request first. Then each side uses its handle. Everything that one side says or does has
to fit what the other expects, since neither checks.

* `Dual`: what can be done with the handles of both sides fits together.
* `StreamAgrees`: so do the opening of a stream and the row that answers it.
* `StreamAgrees.standsIn`: both stand in the text, with the same names and flags.
* `emits_agreeing_streams`: every streaming method of a service with distinct method names agrees.
-/

namespace GoStubs.Stub

open GoStubs.Go GoStubs.Rpc

/-! ## Handles -/

/-- Whether methods of a name are among the given ones. -/
def Offers (fs : List Func) (name : String) : Prop := ∃ f ∈ fs, f.name = name

/-- Whether a method takes a message and returns an error. -/
def Sends (f : Func) (message : Ident) : Prop :=
  f.params.map (·.ty) = [.pointer (.named message)] ∧ f.results = [.error]

/-- Whether a method makes room for a message and returns it. -/
def Receives (f : Func) (message : Ident) : Prop :=
  f.params = [] ∧ f.results = [.pointer (.named message), .error] ∧
    .allocate "m" (.named message) ∈ f.statements

/-- Whether the methods of a server's and a client's handle on streams fit: what one side sends, the
other receives, and the messages are the same. -/
structure Dual (input output : Ident) (server client : List Func) : Prop where
  requests : Offers server "Recv" ↔ Offers client "Send"
  responses : Offers server "Send" ↔ Offers client "Recv"
  /-- A client that cannot receive one response after the other receives one at the end. -/
  response : Offers client "CloseAndRecv" ↔ ¬ Offers client "Recv"
  serverReceives : ∀ f ∈ server, f.name = "Recv" → Receives f input
  clientSends : ∀ f ∈ client, f.name = "Send" → Sends f input
  serverSends : ∀ f ∈ server, f.name = "Send" → Sends f output
  clientReceives : ∀ f ∈ client, f.name = "Recv" ∨ f.name = "CloseAndRecv" → Receives f output

theorem offers_iff (s : Service) (m : Method) (side : Side) (op : Operation)
    (ops : List Operation) :
    Offers (ops.map (operationFunc s m side)) (operationName op) ↔ op ∈ ops := by
  constructor
  · rintro ⟨f, hf, hname⟩
    obtain ⟨op', hop', rfl⟩ := List.mem_map.mp hf
    rwa [← operationName_inj hname]
  · intro hop
    exact ⟨_, List.mem_map_of_mem hop, rfl⟩

theorem receive_mem_server_iff (f : Flow) :
    .receive ∈ f.operations .server ↔ .send ∈ f.operations .client := by
  cases f <;> decide

theorem send_mem_server_iff (f : Flow) :
    .send ∈ f.operations .server ↔ .receive ∈ f.operations .client := by
  cases f <;> decide

theorem closeAndReceive_mem_client_iff {f : Flow} (h : f ≠ .unary) :
    .closeAndReceive ∈ f.operations .client ↔ .receive ∉ f.operations .client := by
  cases f with
  | unary => exact absurd rfl h
  | clientStreaming | serverStreaming | bidirectional => decide

theorem sends_send (s : Service) (m : Method) (side : Side) :
    Sends (operationFunc s m side .send) (operationMessage m side .send) := ⟨rfl, rfl⟩

theorem receives_operationFunc (s : Service) (m : Method) (side : Side) {op : Operation}
    (hop : op ≠ .send) :
    Receives (operationFunc s m side op) (operationMessage m side op) := by
  cases op with
  | send => exact absurd rfl hop
  | receive => exact ⟨rfl, rfl, List.mem_cons_self⟩
  | closeAndReceive => exact ⟨rfl, rfl, List.mem_cons_of_mem _ List.mem_cons_self⟩

/-- The methods of a name among the operations of a handle. -/
theorem operationFunc_of_name {s : Service} {m : Method} {side : Side} {ops : List Operation}
    {f : Func} (op : Operation) (hf : f ∈ ops.map (operationFunc s m side))
    (hname : f.name = operationName op) : f = operationFunc s m side op := by
  obtain ⟨op', -, rfl⟩ := List.mem_map.mp hf
  rw [operationName_inj hname]

theorem dual_operations (s : Service) {m : Method} (hflow : m.flow ≠ .unary) :
    Dual m.input m.output ((m.flow.operations .server).map (operationFunc s m .server))
      ((m.flow.operations .client).map (operationFunc s m .client)) where
  requests := by
    have hserver := offers_iff s m .server .receive (m.flow.operations .server)
    have hclient := offers_iff s m .client .send (m.flow.operations .client)
    exact hserver.trans ((receive_mem_server_iff m.flow).trans hclient.symm)
  responses := by
    have hserver := offers_iff s m .server .send (m.flow.operations .server)
    have hclient := offers_iff s m .client .receive (m.flow.operations .client)
    exact hserver.trans ((send_mem_server_iff m.flow).trans hclient.symm)
  response := by
    have hclose := offers_iff s m .client .closeAndReceive (m.flow.operations .client)
    have hreceive := offers_iff s m .client .receive (m.flow.operations .client)
    exact hclose.trans ((closeAndReceive_mem_client_iff hflow).trans (not_congr hreceive.symm))
  serverReceives := by
    intro f hf hname
    rw [operationFunc_of_name .receive hf hname]
    exact receives_operationFunc s m .server (by decide)
  clientSends := by
    intro f hf hname
    rw [operationFunc_of_name .send hf hname]
    exact sends_send s m .client
  serverSends := by
    intro f hf hname
    rw [operationFunc_of_name .send hf hname]
    exact sends_send s m .server
  clientReceives := by
    rintro f hf (hname | hname)
    · rw [operationFunc_of_name .receive hf hname]
      exact receives_operationFunc s m .client (by decide)
    · rw [operationFunc_of_name .closeAndReceive hf hname]
      exact receives_operationFunc s m .client (by decide)

/-! ## Opening and answering -/

/-- The method of a client that opens a stream, with the opening, and the registration whose row
answers it. -/
structure StreamAgrees (s : Service) (m : Method) (ds : List Decl) (f : Func) (o : StreamOpening)
    (r : Registration) (row : StreamRow) : Prop where
  call : (methodsOn (callerReceiver s) ds).filter (·.name = m.goName) = [f]
  opening : f.openings = [o]
  registration : registrations ds = [r]
  service : o.service = r.service
  answer : r.streams.filter (·.key = o.method) = [row]
  clientFlags : o.clientStreaming = m.clientStreaming ∧ row.clientStreaming = m.clientStreaming
  serverFlags : o.serverStreaming = m.serverStreaming ∧ row.serverStreaming = m.serverStreaming
  /-- The opening sends a request if and only if the row receives one before it calls the method of
  the implementation. -/
  request : ∃ before args, row.handler.calls = before ++ [⟨["svc", m.goName], args⟩] ∧
    (o.request = .var "req" ∧ before = [⟨["stream", "RecvMsg"], [.var "m"]⟩] ∨
      o.request = .nil ∧ before = [])
  handles : Dual m.input m.output (methodsOn (handleReceiver s m .server) ds)
    (methodsOn (handleReceiver s m .client) ds)
  /-- Each side can send where its flag says so. -/
  clientSends : Offers (methodsOn (handleReceiver s m .client) ds) "Send" ↔ m.clientStreaming
  serverSends : Offers (methodsOn (handleReceiver s m .server) ds) "Send" ↔ m.serverStreaming

/-- Both sides stand in the text with the same names and the same flags: those under which the
client opens the stream, and those under which the server registers the service and the row. -/
theorem StreamAgrees.standsIn {imports after : Imports} {s : Service} {m : Method} {text : String}
    {f : Func} {o : StreamOpening} {r : Registration} {row : StreamRow}
    (h : StreamAgrees s m (declarations s) f o r row) (hemits : Emits imports s text after) :
    StandsIn (linesText after (o.lines 1)) text ∧
      StandsIn ("srv.RegisterService(\"" ++ o.service ++ "\", &") text ∧
      StandsIn (linesText after [⟨3, [.text ("\"" ++ o.method ++ "\": \x7b")]⟩]) text ∧
      StandsIn (linesText after (flagLines 4 o.clientStreaming o.serverStreaming)) text := by
  have hf : f ∈ methodsOn (callerReceiver s) (declarations s) :=
    List.mem_of_mem_filter (h.call ▸ List.mem_singleton_self f)
  have ho : o ∈ f.openings := h.opening ▸ List.mem_singleton_self o
  have hr : r ∈ registrations (declarations s) := h.registration ▸ List.mem_singleton_self r
  obtain ⟨hrow, hkey⟩ := List.mem_filter.mp (h.answer ▸ List.mem_singleton_self row)
  have hlines := shows_streamRow hr hrow
  rw [programLines_streamRow, of_decide_eq_true hkey, h.clientFlags.2, h.serverFlags.2] at hlines
  refine ⟨?_, ?_, ?_, ?_⟩
  · exact hemits.standsIn (shows_opening (mem_of_mem_methodsWhere hf) ho)
  · have hservice := (standsIn_words after 1 _).trans (hemits.standsIn (shows_service hr))
    rw [List.cons_append, spell_cons, Word.spell] at hservice
    rw [h.service]
    exact (standsIn_append _ _).trans hservice
  · exact hemits.standsIn (hlines.of_mem List.mem_cons_self)
  · rw [h.clientFlags.1, h.serverFlags.1]
    have hrest := hlines.of_part (List.suffix_cons _ _).isInfix
    have hflags := hrest.of_part (List.prefix_append _ _).isInfix
    exact hemits.standsIn (hflags.of_part (List.suffix_append _ _).isInfix)

/-- The opening of a stream, as a call of a streaming method makes it. -/
def openingOf (s : Service) (m : Method) : StreamOpening where
  descriptor := .named streamDescIdent
  clientStreaming := m.flow.streamsRequests
  serverStreaming := m.flow.streamsResponses
  service := s.fullName
  method := m.goName
  request := if m.flow.streamsRequests then .nil else .var "req"

theorem openings_callFunc (s : Service) {m : Method} (hs : m.flow.streams = true) :
    (callFunc s m).openings = [openingOf s m] := by
  have hbody : (callFunc s m).statements = streamingCall s m := by
    rw [statements_callFunc, callBody, if_pos hs]
  rw [Func.openings, hbody]
  rfl

theorem streamsRequests_flow (m : Method) : m.flow.streamsRequests = m.clientStreaming :=
  Flow.streamsRequests_ofFlags _ _

theorem streamsResponses_flow (m : Method) : m.flow.streamsResponses = m.serverStreaming :=
  Flow.streamsResponses_ofFlags _ _

/-- A row receives a request unless the client streams, which is when a call sends none. -/
theorem calls_streamRow (s : Service) (m : Method) :
    ∃ before args,
      (streamRow s (routedStream m)).handler.calls = before ++ [⟨["svc", m.goName], args⟩] ∧
        ((openingOf s m).request = .var "req" ∧ before = [⟨["stream", "RecvMsg"], [.var "m"]⟩] ∨
          (openingOf s m).request = .nil ∧ before = []) := by
  cases hreq : m.flow.streamsRequests with
  | false =>
    refine ⟨[⟨["stream", "RecvMsg"], [.var "m"]⟩],
      [.var "ctx", .var "m", .wrapped (handleWrapper s m .server) "stream"], ?_,
      Or.inl ⟨?_, rfl⟩⟩
    · rw [FuncLit.calls, streamRow, routedStream, hreq]
      rfl
    · rw [openingOf, hreq]
      rfl
  | true =>
    refine ⟨[], [.var "ctx", .wrapped (handleWrapper s m .server) "stream"], ?_,
      Or.inr ⟨?_, rfl⟩⟩
    · rw [FuncLit.calls, streamRow, routedStream, hreq]
      rfl
    · rw [openingOf, hreq]
      rfl

theorem send_mem_client_iff (f : Flow) :
    .send ∈ f.operations .client ↔ f.streamsRequests = true := by
  cases f <;> decide

theorem send_mem_server_iff_streamsResponses (f : Flow) :
    .send ∈ f.operations .server ↔ f.streamsResponses = true := by
  cases f <;> decide

theorem streamAgrees {s : Service} {m : Method} (hnames : (s.methods.map (·.goName)).Nodup)
    (hm : m ∈ s.methods) (hflow : m.flow ≠ .unary) :
    StreamAgrees s m (declarations s) (callFunc s m) (openingOf s m) (registration s)
      (streamRow s (routedStream m)) where
  call := filter_methodsOn_callerReceiver hnames hm
  opening := openings_callFunc s (streams_eq_true_iff.mpr hflow)
  registration := registrations_declarations s
  service := rfl
  answer := by
    have hs : [m].filter (·.flow.streams) = [m] := by simpa using streams_eq_true_iff.mpr hflow
    rw [openingOf, streams_filter_key hnames hm, hs, List.map_singleton]
  clientFlags := ⟨streamsRequests_flow m, streamsRequests_flow m⟩
  serverFlags := ⟨streamsResponses_flow m, streamsResponses_flow m⟩
  request := calls_streamRow s m
  handles := by
    rw [methodsOn_handleReceiver hnames hm, methodsOn_handleReceiver hnames hm]
    exact dual_operations s hflow
  clientSends := by
    rw [methodsOn_handleReceiver hnames hm, ← streamsRequests_flow, ← send_mem_client_iff]
    exact offers_iff s m .client .send _
  serverSends := by
    rw [methodsOn_handleReceiver hnames hm, ← streamsResponses_flow,
      ← send_mem_server_iff_streamsResponses]
    exact offers_iff s m .server .send _

/-- **Agreement on streams.** Whatever a file imports already, in the stub of a service whose methods
have distinct Go names each streaming method is opened under the names, with the flags and with
the request that its one row answers to, and the handles of both sides are dual. -/
theorem emits_agreeing_streams (imports : Imports) (s : Service)
    (hnames : (s.methods.map (·.goName)).Nodup) :
    ∃ text after, Emits imports s text after ∧
      ∀ m ∈ s.methods, m.flow ≠ .unary →
        ∃ f o r row, StreamAgrees s m (declarations s) f o r row := by
  obtain ⟨text, after, hemits⟩ := emits imports s
  refine ⟨text, after, hemits, ?_⟩
  intro m hm hflow
  exact ⟨callFunc s m, openingOf s m, registration s, _, streamAgrees hnames hm hflow⟩

theorem emits_agreeing_streams_mailbox :
    (mailbox.methods.map (·.goName)).Nodup ∧
      ∃ text after, Emits mailImports mailbox text after ∧
        ∀ m ∈ mailbox.methods, m.flow ≠ .unary →
          ∃ f o r row, StreamAgrees mailbox m (declarations mailbox) f o r row :=
  ⟨by decide, emits_agreeing_streams mailImports mailbox (by decide)⟩

end GoStubs.Stub
