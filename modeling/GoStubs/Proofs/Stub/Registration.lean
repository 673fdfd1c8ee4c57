import GoStubs.Proofs.Rpc.Routing
import GoStubs.Proofs.Stub.Conformance
/-!
# Registration is complete and fits the interface

An implementation is registered with a map of unary methods and a map of streaming ones. The rows
are made from the flags of a routing, the interface of implementations from the flow of each
method; here each row is held against the line of the interface that it calls.

* `Passes`: an argument that a handler passes has the type that the interface asks for.
* `Fits`: a handler calls a method of the interface as its line says.
* `Registers.standsIn`: where the registration stands in the text.
* `emits_registering`: each method of a service has one row, and the row fits.
-/

namespace GoStubs.Stub

open GoStubs.Go GoStubs.Rpc

/-! ## Handlers and the interface -/

/-- Whether an argument of a handler's call has a type, as far as the handler's parameters and
the statements before the call say. -/
inductive Passes (ds : List Decl) (params : List Param) (decoding : List Stmt) :
    Operand → Ty → Prop where
  /-- A parameter of the handler itself. -/
  | parameter {name : String} {ty : Ty} (h : ⟨name, ty⟩ ∈ params) :
      Passes ds params decoding (.var name) ty
  /-- The message of a unary call, which the runtime's decoder has filled. -/
  | decoded {name decoder : String} {message : Ty} (hparam : ⟨decoder, .decoder⟩ ∈ params)
      (hdecoding : decoding = [.declare name message, .attempt ⟨[decoder], [.address name]⟩]) :
      Passes ds params decoding (.address name) (.pointer message)
  /-- The first message of a stream. -/
  | received {name stream : String} {message : Ty}
      (hparam : ⟨stream, .named streamServerIdent⟩ ∈ params)
      (hdecoding : decoding =
        [.allocate name message, .attempt ⟨[stream, "RecvMsg"], [.var name]⟩]) :
      Passes ds params decoding (.var name) (.pointer message)
  /-- The stream, in a structure that embeds its type and has the methods of an interface. -/
  | handle {wrapper stream interface : String} {base : Ty} (hparam : ⟨stream, base⟩ ∈ params)
      (hembeds : embeddedIn wrapper ds = [base])
      (hsatisfies : Satisfies ds ⟨"x", .pointer (.declared wrapper)⟩ interface) :
      Passes ds params decoding (.wrapped wrapper stream) (.declared interface)

/-- Whether a handler calls a method of the implementation `svc` as a line of its interface
says. -/
structure Fits (ds : List Decl) (handler : FuncLit) (spec : MethodSpec) (decoding : List Stmt)
    (before args : List Operand) : Prop where
  /-- The handler first decodes a request, then calls the method and returns what it returns. -/
  body : handler.body = decoding ++ [.returnsCall before ⟨["svc", spec.name], args⟩]
  /-- The arguments are those that the line lists, one for one. -/
  passes : List.Forall₂ (Passes ds handler.params decoding) args spec.params
  /-- A request is decoded only where the line lists one. -/
  decodes : decoding ≠ [] ↔ ∃ message, Ty.pointer message ∈ spec.params
  /-- A handle is passed only where the line lists one. -/
  wraps : (∃ wrapper stream, Operand.wrapped wrapper stream ∈ args) ↔
    ∃ interface, Ty.declared interface ∈ spec.params
  /-- Where the method returns an error only, the handler puts `nil` before it. -/
  returnsNil : before = if spec.results = [.error] then [.nil] else []
  /-- The results are as many as the handler has. -/
  results : before.length + spec.results.length = handler.results.length

/-! ## Rows -/

/-- What the routing says of a streaming method. -/
def routedStream (m : Method) : StreamingRow Method :=
  ⟨m.goName, m, m.flow.streamsRequests, m.flow.streamsResponses⟩

theorem methods_registration (s : Service) :
    (registration s).methods =
      (s.methods.filter (!·.flow.streams)).map fun m => methodRow m.goName m := by
  rw [registration, routing, Routing.unary_ofMethods, List.filter_map, List.map_map, List.map_map]
  rfl

theorem streams_registration (s : Service) :
    (registration s).streams =
      (s.methods.filter (·.flow.streams)).map fun m => streamRow s (routedStream m) := by
  rw [registration, routing, Routing.streaming_ofMethods, List.filter_map, List.map_map,
    List.map_map]
  rfl

/-- The handler of a method, from whichever map holds it. -/
def handlerOf (s : Service) (m : Method) : FuncLit :=
  if m.flow.streams then (streamRow s (routedStream m)).handler
  else (methodRow m.goName m).handler

theorem methods_filter_key {s : Service} {m : Method}
    (hnames : (s.methods.map (·.goName)).Nodup) (hm : m ∈ s.methods) :
    (registration s).methods.filter (·.key = m.goName) =
      ([m].filter (!·.flow.streams)).map fun m => methodRow m.goName m := by
  rw [methods_registration, List.filter_map, List.filter_comm, ← filter_eq_of_nodup hnames hm]
  rfl

theorem streams_filter_key {s : Service} {m : Method}
    (hnames : (s.methods.map (·.goName)).Nodup) (hm : m ∈ s.methods) :
    (registration s).streams.filter (·.key = m.goName) =
      ([m].filter (·.flow.streams)).map fun m => streamRow s (routedStream m) := by
  rw [streams_registration, List.filter_map, List.filter_comm, ← filter_eq_of_nodup hnames hm]
  rfl

/-- Distinct names leave one row for each method, in one of the maps. -/
theorem handlers_registration {s : Service} {m : Method}
    (hnames : (s.methods.map (·.goName)).Nodup) (hm : m ∈ s.methods) :
    (registration s).handlers m.goName = [handlerOf s m] := by
  rw [Registration.handlers, methods_filter_key hnames hm, streams_filter_key hnames hm, handlerOf]
  cases hs : m.flow.streams <;> simp [hs]

/-! ## What the rows pass -/

theorem passes_handle {s : Service} {m : Method} {params : List Param} (decoding : List Stmt)
    (hnames : (s.methods.map (·.goName)).Nodup) (hm : m ∈ s.methods) (hflow : m.flow ≠ .unary)
    (hparam : ⟨"stream", .named streamServerIdent⟩ ∈ params) :
    Passes (declarations s) params decoding (.wrapped (handleWrapper s m .server) "stream")
      (handleTy s m .server) :=
  .handle hparam (embeddedIn_handleWrapper hnames hm (streams_eq_true_iff.mpr hflow) .server)
    (handleConforms hnames hm hflow .server).satisfies

/-- The row of each flow fits the line that the interface has for this flow. -/
theorem fits_handlerOf {s : Service} {m : Method} (hnames : (s.methods.map (·.goName)).Nodup)
    (hm : m ∈ s.methods) :
    ∃ decoding before args,
      Fits (declarations s) (handlerOf s m) (implementationSpec s m) decoding before args := by
  -- Each handler takes the context first and what the call comes with second.
  have hctx : ∀ {p decoding}, Passes (declarations s) [⟨"ctx", contextTy⟩, p] decoding
      (.var "ctx") contextTy := .parameter List.mem_cons_self
  have hsecond : ∀ {p q : Param}, q ∈ [p, q] := List.mem_cons_of_mem _ List.mem_cons_self
  have hhandle : ∀ decoding, m.flow ≠ .unary → Passes (declarations s)
      [⟨"ctx", contextTy⟩, ⟨"stream", .named streamServerIdent⟩] decoding
      (.wrapped (handleWrapper s m .server) "stream") (handleTy s m .server) :=
    fun decoding hflow => passes_handle decoding hnames hm hflow hsecond
  -- The interface goes by the flow and the rows by the flags of the routing, which the flow fixes.
  cases hflow : m.flow with
  | unary =>
    rw [handlerOf, implementationSpec, hflow]
    refine ⟨[.declare "req" (.named m.input), .attempt ⟨["unmarshal"], [.address "req"]⟩], [],
      [.var "ctx", .address "req"], rfl, ?_, ?_, ?_, rfl, rfl⟩
    · exact .cons hctx (.cons (.decoded hsecond rfl) .nil)
    · simp [inputTy]
    · simp [inputTy, contextTy]
  | clientStreaming =>
    rw [handlerOf, routedStream, implementationSpec, hflow]
    refine ⟨[], [], [.var "ctx", .wrapped (handleWrapper s m .server) "stream"], rfl,
      ?_, ?_, ?_, rfl, rfl⟩
    · exact .cons hctx (.cons (hhandle _ (by simp [hflow])) .nil)
    · simp [contextTy, handleTy]
    · simp [contextTy, handleTy]
  | serverStreaming =>
    let decoding : List Stmt :=
      [.allocate "m" (.named m.input), .attempt ⟨["stream", "RecvMsg"], [.var "m"]⟩]
    rw [handlerOf, routedStream, implementationSpec, hflow]
    refine ⟨decoding, [.nil], [.var "ctx", .var "m", .wrapped (handleWrapper s m .server) "stream"],
      rfl, ?_, ?_, ?_, rfl, rfl⟩
    · exact .cons hctx (.cons (.received hsecond rfl) (.cons (hhandle _ (by simp [hflow])) .nil))
    · simp [inputTy, contextTy, handleTy, decoding]
    · simp [contextTy, handleTy]
  | bidirectional =>
    rw [handlerOf, routedStream, implementationSpec, hflow]
    refine ⟨[], [.nil], [.var "ctx", .wrapped (handleWrapper s m .server) "stream"], rfl,
      ?_, ?_, ?_, rfl, rfl⟩
    · exact .cons hctx (.cons (hhandle _ (by simp [hflow])) .nil)
    · simp [contextTy, handleTy]
    · simp [contextTy, handleTy]

/-! ## The registration of a stub -/

/-- The function that registers an implementation, with the rows of its two maps and the lines of
the interface of implementations. -/
structure Registers (s : Service) (ds : List Decl) (f : Func) (r : Registration)
    (specs : List MethodSpec) : Prop where
  function : functionsNamed (registerFunction s.goName) ds = [f]
  registration : f.body = .registers r
  /-- What is registered is a value of the interface of implementations. -/
  implementation : ⟨"svc", .declared (serviceInterface s.goName)⟩ ∈ f.params
  interface : interfacesNamed (serviceInterface s.goName) ds = [(specs, none)]
  methodsMap : (Decl.func f).WritesMap "Methods" ↔ ∃ m ∈ s.methods, m.flow = .unary
  streamsMap : (Decl.func f).WritesMap "Streams" ↔ ∃ m ∈ s.methods, m.flow ≠ .unary
  methodKeys : r.methods.map (·.key) = (s.methods.filter (·.flow = .unary)).map (·.goName)
  streamKeys : r.streams.map (·.key) = (s.methods.filter (·.flow ≠ .unary)).map (·.goName)
  /-- Each method has one row and one line, which fit. -/
  rows : ∀ m ∈ s.methods, ∃ handler spec decoding before args,
    r.handlers m.goName = [handler] ∧ specs.filter (·.name = m.goName) = [spec] ∧
      Fits ds handler spec decoding before args

/-- The registration stands in the text: its function with the signature, the interface of
implementations with its lines, and each handler with its key in front and its statements inside. -/
theorem Registers.standsIn {imports after : Imports} {s : Service} {text : String} {f : Func}
    {r : Registration} {specs : List MethodSpec} (h : Registers s (declarations s) f r specs)
    (hemits : Emits imports s text after) :
    StandsIn (linesText after [⟨0, f.header ++ [.text " \x7b"]⟩]) text ∧
      StandsIn
        (linesText after (Decl.interface (serviceInterface s.goName) specs none).lines) text ∧
      ∀ key, ∀ handler ∈ r.handlers key, StandsIn ("\"" ++ key ++ "\": ") text ∧
        ∀ stmt ∈ handler.body, ∃ depth,
          StandsIn (linesText after (programLines depth stmt.print)) text := by
  have hf : .func f ∈ declarations s :=
    mem_of_mem_functionsNamed (h.function ▸ List.mem_singleton_self f)
  have hr : r ∈ registrations (declarations s) :=
    mem_registrations_iff.mpr ⟨f, hf, h.registration⟩
  have hinterface := shows_interface (h.interface ▸ List.mem_singleton_self (specs, none))
  refine ⟨hemits.standsIn (shows_header hf), hemits.standsIn hinterface, ?_⟩
  intro key handler hhandler
  rcases shows_handler hr hhandler with hshows | hshows
  · refine ⟨(standsIn_before_funcLit after 3 _ handler).trans (hemits.standsIn hshows), ?_⟩
    intro stmt hstmt
    exact ⟨4, hemits.standsIn (hshows.of_part (programLines_infix_funcLit 3 _ hstmt))⟩
  · have hrow := hemits.standsIn (hshows.of_mem List.mem_cons_self)
    have hkey := (standsIn_words after 3 _).trans hrow
    refine ⟨StandsIn.trans ⟨"", "\x7b", ?_⟩ hkey, ?_⟩
    · simp [Word.spell, String.append_assoc]
    · intro stmt hstmt
      have hhandlerLines := hshows.of_part (List.suffix_cons _ _).isInfix
      exact ⟨5, hemits.standsIn (hhandlerLines.of_part (programLines_infix_funcLit 4 _ hstmt))⟩

theorem name_implementationSpec (s : Service) (m : Method) :
    (implementationSpec s m).name = m.goName := by
  unfold implementationSpec
  split <;> rfl

theorem registers {s : Service} (hnames : (s.methods.map (·.goName)).Nodup) :
    Registers s (declarations s) (registerFunc s) (registration s)
      (s.methods.map (implementationSpec s)) where
  function := functionsNamed_registerFunction s
  registration := rfl
  implementation := by simp [registerFunc]
  interface := interfacesNamed_service s
  methodsMap := by
    rw [writesMap_iff rfl, methods_registration]
    simp [streams_eq_decide]
  streamsMap := by
    rw [writesMap_iff rfl, streams_registration]
    simp [streams_eq_decide]
  methodKeys := by
    rw [methods_registration, List.map_map]
    simp only [streams_eq_decide, ne_eq, decide_not, Bool.not_not]
    rfl
  streamKeys := by
    rw [streams_registration, List.map_map]
    simp only [streams_eq_decide]
    rfl
  rows := by
    intro m hm
    obtain ⟨decoding, before, args, hfits⟩ := fits_handlerOf hnames hm
    refine ⟨_, _, decoding, before, args, handlers_registration hnames hm, ?_, hfits⟩
    rw [List.filter_map, ← List.map_singleton, ← filter_eq_of_nodup hnames hm]
    simp only [Function.comp_def, name_implementationSpec]

/-- **Registration.** Whatever a file imports already, the stub of a service whose methods have
distinct Go names registers each method under its Go name, in the map that its flow asks for, and
the row calls the method as the interface of implementations lists it. -/
theorem emits_registering (imports : Imports) (s : Service)
    (hnames : (s.methods.map (·.goName)).Nodup) :
    ∃ text after, Emits imports s text after ∧
      ∃ f r specs, Registers s (declarations s) f r specs := by
  obtain ⟨text, after, hemits⟩ := emits imports s
  exact ⟨text, after, hemits, registerFunc s, registration s, _, registers hnames⟩

theorem emits_registering_mailbox :
    (mailbox.methods.map (·.goName)).Nodup ∧
      ∃ text after, Emits mailImports mailbox text after ∧
        ∃ f r specs, Registers mailbox (declarations mailbox) f r specs :=
  ⟨by decide, emits_registering mailImports mailbox (by decide)⟩

end GoStubs.Stub
