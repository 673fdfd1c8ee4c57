import GoStubs.Proofs.Stub.Declarations
/-!
# Generated structures satisfy generated interfaces

A stub declares interfaces and, elsewhere, the structures that are used through them: the client
behind the interface that its constructor returns, and the structure behind each handle on a
stream. Go accepts the stub only if such a structure has every method that the interface lists,
with the same types. Both are shown to correspond line by line.

* `ClientConforms`: the client structure and the interface that a caller gets.
* `HandleConforms`: the structure and the interface of a handle.
* `Emits.standsIn_of_satisfies`, `HandleConforms.standsIn`: where they stand in the text.
* `emits_conforming`: the stub of every service with distinct method names conforms to both.
-/

namespace GoStubs.Stub

open GoStubs.Go GoStubs.Rpc

/-! ## Signatures -/

theorem streams_eq_decide (f : Flow) : f.streams = decide (f ≠ .unary) := by
  cases f <;> decide

theorem streams_eq_true_iff {f : Flow} : f.streams = true ↔ f ≠ .unary := by
  rw [streams_eq_decide, decide_eq_true_iff]

theorem hasStreams_iff (s : Service) :
    s.hasStreams = true ↔ ∃ m ∈ s.methods, m.flow ≠ .unary := by
  simp only [Service.hasStreams, List.any_eq_true, streams_eq_true_iff]

/-- A call has the signature that the interface of clients lists for it. -/
theorem spec_callFunc (s : Service) (m : Method) : (callFunc s m).spec = callerSpec s m := by
  cases h : m.flow <;> simp [Func.spec, callFunc, callerSpec, h, Flow.streams,
    Flow.streamsRequests, Flow.streamsResponses]

theorem statements_callFunc (s : Service) (m : Method) :
    (callFunc s m).statements = callBody s m := rfl

/-- Calling a unary method and implementing it take the same signature. -/
theorem callerSpec_of_unary {m : Method} (s : Service) (h : m.flow = .unary) :
    callerSpec s m = implementationSpec s m := by
  simp [callerSpec, implementationSpec, h]

theorem name_callerSpec (s : Service) (m : Method) : (callerSpec s m).name = m.goName := by
  unfold callerSpec
  split <;> rfl

/-- An operation of a handle has the signature that the interface of the handle lists for it. -/
theorem spec_operationFunc (s : Service) (m : Method) (side : Side) (op : Operation) :
    (operationFunc s m side op).spec = operationSpec m side op := rfl

theorem operationName_inj {op op' : Operation} (h : operationName op = operationName op') :
    op = op' := by
  cases op <;> cases op' <;> first | rfl | exact absurd h (by decide)

theorem nodup_operations (f : Flow) (side : Side) : (f.operations side).Nodup := by
  cases f <;> cases side <;> decide

theorem nodup_operationSpec_names (m : Method) (side : Side) :
    (((m.flow.operations side).map (operationSpec m side)).map (·.name)).Nodup := by
  rw [List.map_map]
  exact List.Pairwise.map _ (fun _ _ hne h => hne (operationName_inj h)) (nodup_operations _ _)

/-- A receiver that satisfies an interface has its methods in the text: the interface lists them
line by line, and each of them starts with its signature. -/
theorem Emits.standsIn_of_satisfies {imports after : Imports} {s : Service}
    {text interface : String} {receiver : Param} (hemits : Emits imports s text after)
    (h : Satisfies (declarations s) receiver interface) : ∃ methods embedded,
      StandsIn (linesText after (Decl.interface interface methods embedded).lines) text ∧
        ∀ spec ∈ methods, ∃ f : Func, f.spec = spec ∧
          StandsIn (linesText after [⟨0, f.header ++ [.text " \x7b"]⟩]) text := by
  obtain ⟨methods, embedded, hinterface, -, hmethods⟩ := h
  have hmem : (methods, embedded) ∈ interfacesNamed interface (declarations s) := by
    rw [hinterface]
    exact List.mem_singleton_self _
  refine ⟨methods, embedded, hemits.standsIn (shows_interface hmem), ?_⟩
  intro spec hspec
  rw [← hmethods] at hspec
  obtain ⟨f, hf, rfl⟩ := List.mem_map.mp hspec
  exact ⟨f, rfl, hemits.standsIn (shows_header (mem_of_mem_methodsWhere hf))⟩

/-! ## Clients -/

/-- The constructor makes a client structure and returns it as an interface, all of whose methods
the structure has. -/
def MakesClient (s : Service) (ds : List Decl) (interface : String) : Prop :=
  (∃ f, functionsNamed (clientConstructor s.goName) ds = [f] ∧
    f.results = [.declared interface] ∧
    f.statements = [.returnsNew (clientStruct s.goName) "client" "client"]) ∧
  Satisfies ds (callerReceiver s) interface

/-- What a caller gets from the constructor. -/
structure ClientConforms (s : Service) (ds : List Decl) : Prop where
  /-- Where no method streams, a client is used through the interface of implementations, and no
  other one is declared for it. -/
  shared : (∀ m ∈ s.methods, m.flow = .unary) →
    MakesClient s ds (serviceInterface s.goName) ∧
      interfacesNamed (clientInterface s.goName) ds = []
  /-- Where some method streams, clients have an interface of their own. -/
  own : (∃ m ∈ s.methods, m.flow ≠ .unary) → MakesClient s ds (clientInterface s.goName)

theorem clientConforms {s : Service} (hnames : (s.methods.map (·.goName)).Nodup) :
    ClientConforms s (declarations s) := by
  have hmake : functionsNamed (clientConstructor s.goName) (declarations s) =
      [constructorFunc s] := functionsNamed_clientConstructor s
  have hcalls : (methodsOn (callerReceiver s) (declarations s)).map Func.spec =
      s.methods.map (callerSpec s) := by
    rw [methodsOn_callerReceiver, List.map_map]
    exact List.map_congr_left fun m _ => spec_callFunc s m
  have hdistinct : ((s.methods.map (callerSpec s)).map (·.name)).Nodup := by
    rw [List.map_map]
    simpa only [Function.comp_def, name_callerSpec] using hnames
  constructor
  · intro hunary
    have hstreams : ¬ s.hasStreams = true := fun h => by
      obtain ⟨m, hm, hflow⟩ := (hasStreams_iff s).mp h
      exact hflow (hunary m hm)
    -- Only unary methods have the same signature on both sides.
    have hspecs : s.methods.map (callerSpec s) = s.methods.map (implementationSpec s) :=
      List.map_congr_left fun m hm => callerSpec_of_unary s (hunary m hm)
    refine ⟨⟨⟨_, hmake, ?_, rfl⟩, _, _, interfacesNamed_service s, ?_, ?_⟩, ?_⟩
    · simp [constructorFunc, returnedInterface, hstreams]
    · rwa [← hspecs]
    · rw [hcalls, hspecs]
    · rw [interfacesNamed_client, if_neg hstreams]
  · intro hsome
    have hstreams : s.hasStreams = true := (hasStreams_iff s).mpr hsome
    have hinterface := interfacesNamed_client s
    rw [if_pos hstreams] at hinterface
    refine ⟨⟨_, hmake, ?_, rfl⟩, _, _, hinterface, hdistinct, hcalls⟩
    simp [constructorFunc, returnedInterface, hstreams]

/-! ## Handles -/

/-- What either side of a streaming method gets. -/
structure HandleConforms (s : Service) (m : Method) (side : Side) (ds : List Decl) : Prop where
  /-- The structure behind the handle has the methods of the handle's interface. -/
  satisfies : Satisfies ds (handleReceiver s m side) (streamInterface s.goName m.goName side)
  /-- Both embed the same type of the runtime. -/
  embeds : ∃ name,
    (interfacesNamed (streamInterface s.goName m.goName side) ds).map (·.2) =
        [some (.named (runtimeIdent name))] ∧
      embeddedIn (handleWrapper s m side) ds = [.named (runtimeIdent name)]

theorem streamEnd_eq (side : Side) : streamEnd side = runtimeIdent (streamEnd side).name := by
  cases side <;> rfl

theorem handleConforms {s : Service} {m : Method} (hnames : (s.methods.map (·.goName)).Nodup)
    (hm : m ∈ s.methods) (hflow : m.flow ≠ .unary) (side : Side) :
    HandleConforms s m side (declarations s) := by
  have hs : m.flow.streams = true := streams_eq_true_iff.mpr hflow
  have hinterface := interfacesNamed_stream hnames hm hs side
  constructor
  · refine ⟨_, _, hinterface, nodup_operationSpec_names m side, ?_⟩
    rw [methodsOn_handleReceiver hnames hm, List.map_map]
    exact List.map_congr_left fun op _ => spec_operationFunc s m side op
  · refine ⟨(streamEnd side).name, ?_, ?_⟩
    · rw [hinterface, ← streamEnd_eq]
      rfl
    · rw [embeddedIn_handleWrapper hnames hm hs side, ← streamEnd_eq]

/-- The interface and the structure of a handle stand in the text, over one type of the runtime. -/
theorem HandleConforms.standsIn {imports after : Imports} {s : Service} {m : Method} {side : Side}
    {text : String} (h : HandleConforms s m side (declarations s))
    (hemits : Emits imports s text after) : ∃ name methods,
      StandsIn (linesText after (Decl.interface (streamInterface s.goName m.goName side) methods
        (some (.named (runtimeIdent name)))).lines) text ∧
      StandsIn (linesText after (Decl.struct (handleWrapper s m side) none
        (.named (runtimeIdent name))).lines) text := by
  obtain ⟨name, hinterface, hstruct⟩ := h.embeds
  obtain ⟨⟨methods, embedded⟩, hmem, hembedded⟩ :=
    List.mem_map.mp (hinterface ▸ List.mem_singleton_self _)
  obtain rfl : embedded = _ := hembedded
  refine ⟨name, methods, hemits.standsIn (shows_interface hmem), hemits.standsIn (shows_struct ?_)⟩
  rw [hstruct]
  exact List.mem_singleton_self _

/-! ## Stubs -/

/-- What Go asks of the structures of a stub. The receivers tell their methods apart; where every
method of the service has a name, the structures do. -/
structure Conforms (s : Service) (ds : List Decl) : Prop where
  client : ClientConforms s ds
  handle : ∀ m ∈ s.methods, m.flow ≠ .unary → ∀ side, HandleConforms s m side ds
  clientMethods : (∀ m ∈ s.methods, m.goName ≠ "") →
    methodsOf (clientStruct s.goName) ds = methodsOn (callerReceiver s) ds
  handleMethods : (∀ m ∈ s.methods, m.goName ≠ "") → ∀ m ∈ s.methods, ∀ side,
    methodsOf (handleWrapper s m side) ds = methodsOn (handleReceiver s m side) ds

/-- **Conformance.** Whatever a file imports already, a service whose methods have distinct Go
names gets a stub in which the client structure has the methods of the interface that its
constructor returns, and the structure behind each handle those of the handle's interface. -/
theorem emits_conforming (imports : Imports) (s : Service)
    (hnames : (s.methods.map (·.goName)).Nodup) :
    ∃ text after, Emits imports s text after ∧ Conforms s (declarations s) := by
  obtain ⟨text, after, hemits⟩ := emits imports s
  refine ⟨text, after, hemits, clientConforms hnames, ?_, ?_, ?_⟩
  · intro m hm hflow side
    exact handleConforms hnames hm hflow side
  · exact methodsOf_clientStruct
  · intro hne m hm side
    exact methodsOf_handleWrapper side (hne m hm)

theorem emits_conforming_mailbox :
    (mailbox.methods.map (·.goName)).Nodup ∧
      ∃ text after, Emits mailImports mailbox text after ∧
        Conforms mailbox (declarations mailbox) :=
  ⟨by decide, emits_conforming mailImports mailbox (by decide)⟩

end GoStubs.Stub
