import GoStubs.Proofs.Stub.Registration
/-!
# What a stub names

Apart from the runtime, a stub names the messages of the methods of its service and nothing else,
whatever their flows; and it names each of them. Where a message is named depends on the flow: the
code of a call names what neither side streams, a handle what one side receives.

* `IsMessage`: the messages of a service.
* `refersTo_declarations`: every identifier in a declaration is the runtime's or a message.
* `exists_mem_idents_of_isMessage`: every message is in a declaration.
-/

namespace GoStubs.Stub

open GoStubs.Go GoStubs.Rpc

/-- Whether an identifier is the request or the response of a method of the service. -/
def IsMessage (s : Service) (i : Ident) : Prop := ∃ m ∈ s.methods, i = m.input ∨ i = m.output

/-- Whether all identifiers are the runtime's or messages of the service. -/
def RefersTo (s : Service) (is : List Ident) : Prop := ∀ i ∈ is, i ∈ runtimeIdents ∨ IsMessage s i

variable {s : Service} {m : Method} {i : Ident} {is js : List Ident}

theorem isMessage_input (hm : m ∈ s.methods) : IsMessage s m.input := ⟨m, hm, Or.inl rfl⟩

theorem isMessage_output (hm : m ∈ s.methods) : IsMessage s m.output := ⟨m, hm, Or.inr rfl⟩

theorem isMessage_operationMessage (hm : m ∈ s.methods) (side : Side) (op : Operation) :
    IsMessage s (operationMessage m side op) := by
  refine ⟨m, hm, ?_⟩
  cases side <;> cases op <;> simp [operationMessage]

theorem refersTo_nil (s : Service) : RefersTo s [] := nofun

theorem refersTo_append : RefersTo s (is ++ js) ↔ RefersTo s is ∧ RefersTo s js :=
  List.forall_mem_append

theorem refersTo_cons :
    RefersTo s (i :: is) ↔ (i ∈ runtimeIdents ∨ IsMessage s i) ∧ RefersTo s is :=
  List.forall_mem_cons

theorem refersTo_flatMap {α : Type} {f : α → List Ident} {as : List α} :
    RefersTo s (as.flatMap f) ↔ ∀ a ∈ as, RefersTo s (f a) := List.forall_mem_flatMap

/-! ## The identifiers of each declaration -/

theorem idents_implementationInterface (s : Service) : (implementationInterface s).idents =
    s.methods.flatMap fun m => (implementationSpec s m).idents := by
  simp [implementationInterface, Decl.idents, List.flatMap_map]

theorem idents_operationSpec (m : Method) (side : Side) (op : Operation) :
    (operationSpec m side op).idents = [operationMessage m side op] := by
  cases op <;> rfl

theorem idents_operationFunc (s : Service) (m : Method) (side : Side) (op : Operation) :
    (Decl.func (operationFunc s m side op)).idents =
      operationMessage m side op :: if op = .send then [] else [operationMessage m side op] := by
  cases op <;> rfl

theorem idents_methodRow (scope : List String) (key : String) (m : Method) :
    ((methodRow key m).handler.mentions scope).map (·.ident) = [contextIdent, m.input] := rfl

theorem idents_streamRow (scope : List String) (s : Service) (m : Method) :
    ((streamRow s (routedStream m)).handler.mentions scope).map (·.ident) =
      contextIdent :: streamServerIdent :: if m.flow.streamsRequests then [] else [m.input] := by
  obtain ⟨name, goName, input, output, clientStreams, serverStreams⟩ := m
  cases clientStreams <;> cases serverStreams <;> rfl

theorem idents_callFunc (s : Service) (m : Method) : (Decl.func (callFunc s m)).idents =
    contextIdent :: (if m.flow.streamsRequests then [] else [m.input]) ++
      if m.flow.streams then [streamDescIdent] else [m.output, m.output] := by
  obtain ⟨name, goName, input, output, clientStreams, serverStreams⟩ := m
  cases clientStreams <;> cases serverStreams <;> rfl

theorem idents_of_mem_callerSection {d : Decl} (hd : d ∈ callerSection s) :
    d.idents = [clientIdent] := by
  rw [callerSection, List.mem_cons, List.mem_singleton] at hd
  rcases hd with rfl | rfl <;> rfl

/-! ## Nothing but the runtime and messages -/

theorem refersTo_implementationSpec (hm : m ∈ s.methods) :
    RefersTo s (implementationSpec s m).idents := by
  have hcontext : contextIdent ∈ runtimeIdents := by decide
  have hinput := isMessage_input hm
  have houtput := isMessage_output hm
  unfold implementationSpec
  cases m.flow <;>
    simp [RefersTo, MethodSpec.idents, signatureIdents, contextTy, inputTy, outputTy, handleTy,
      Ty.idents, hcontext, hinput, houtput]

theorem refersTo_callerSpec (hm : m ∈ s.methods) : RefersTo s (callerSpec s m).idents := by
  have hcontext : contextIdent ∈ runtimeIdents := by decide
  have hinput := isMessage_input hm
  have houtput := isMessage_output hm
  unfold callerSpec
  cases m.flow <;>
    simp [RefersTo, MethodSpec.idents, signatureIdents, contextTy, inputTy, outputTy, handleTy,
      Ty.idents, hcontext, hinput, houtput]

theorem refersTo_handleDecls (hm : m ∈ s.methods) {side : Side} {d : Decl}
    (hd : d ∈ handleDecls s m side) : RefersTo s d.idents := by
  have hend : streamEnd side ∈ runtimeIdents := by cases side <;> decide
  have hmessage := isMessage_operationMessage hm side
  unfold handleDecls at hd
  split at hd
  · rcases List.mem_cons.mp hd with rfl | hd
    · rw [handleInterface, Decl.idents, refersTo_append, refersTo_flatMap, List.forall_mem_map]
      refine ⟨fun op _ => ?_, by simp [RefersTo, Ty.idents, hend]⟩
      rw [idents_operationSpec]
      simp [RefersTo, hmessage op]
    · rcases List.mem_cons.mp hd with rfl | hd
      · simp [RefersTo, handleStruct, Decl.idents, Ty.idents, hend]
      · obtain ⟨op, -, rfl⟩ := List.mem_map.mp hd
        rw [idents_operationFunc]
        split <;> simp [RefersTo, hmessage op]
  · cases hd

theorem refersTo_mapMentions {scope : List String} {rowType : Ident} {handlers : List FuncLit}
    (hrow : rowType ∈ runtimeIdents)
    (hhandlers : ∀ f ∈ handlers, RefersTo s ((f.mentions scope).map (·.ident))) :
    RefersTo s ((mapMentions scope (.named rowType) handlers).map (·.ident)) := by
  unfold mapMentions
  split
  · exact refersTo_nil s
  · rw [List.map_append, map_ident_mentionsUnder, List.map_flatMap, refersTo_append,
      refersTo_flatMap]
    exact ⟨by simp [RefersTo, Ty.idents, hrow], hhandlers⟩

theorem refersTo_registerFunc (s : Service) : RefersTo s (Decl.func (registerFunc s)).idents := by
  have hcontext : contextIdent ∈ runtimeIdents := by decide
  have hstream : streamServerIdent ∈ runtimeIdents := by decide
  have hidents : (Decl.func (registerFunc s)).idents =
      serverIdent :: ((registration s).mentions (registerFunc s).locals).map (·.ident) := rfl
  rw [hidents, Registration.mentions, List.map_append, List.map_append, map_ident_mentionsUnder,
    refersTo_cons, refersTo_append, refersTo_append]
  refine ⟨Or.inl (by decide), ⟨fun i hi => ?_, refersTo_mapMentions (by decide) ?_⟩,
    refersTo_mapMentions (by decide) ?_⟩
  · exact Or.inl (List.mem_singleton.mp hi ▸ by decide)
  · rw [methods_registration, List.map_map, List.forall_mem_map]
    intro m hm
    have hinput := isMessage_input (List.mem_of_mem_filter hm)
    rw [Function.comp_apply, idents_methodRow]
    simp [RefersTo, hcontext, hinput]
  · rw [streams_registration, List.map_map, List.forall_mem_map]
    intro m hm
    have hinput := isMessage_input (List.mem_of_mem_filter hm)
    rw [Function.comp_apply, idents_streamRow]
    cases m.flow.streamsRequests <;> simp [RefersTo, hcontext, hstream, hinput]

theorem refersTo_callFunc (hm : m ∈ s.methods) :
    RefersTo s (Decl.func (callFunc s m)).idents := by
  have hcontext : contextIdent ∈ runtimeIdents := by decide
  have hdesc : streamDescIdent ∈ runtimeIdents := by decide
  have hinput := isMessage_input hm
  have houtput := isMessage_output hm
  rw [idents_callFunc]
  cases m.flow.streamsRequests <;> cases m.flow.streams <;>
    simp [RefersTo, hcontext, hdesc, hinput, houtput]

/-- A stub names the runtime and messages. -/
theorem refersTo_declarations {d : Decl} (hd : d ∈ declarations s) : RefersTo s d.idents := by
  have hclient : clientIdent ∈ runtimeIdents := by decide
  rw [declarations_eq, flatten_callerInterfaceSections] at hd
  simp only [List.mem_append, List.mem_singleton, List.mem_flatMap] at hd
  rcases hd with ((((rfl | ⟨m, hm, hd⟩) | rfl) | hd) | hd) | ⟨m, hm, rfl | hd⟩
  · rw [idents_implementationInterface, refersTo_flatMap]
    exact fun m hm => refersTo_implementationSpec hm
  · exact refersTo_handleDecls hm hd
  · exact refersTo_registerFunc s
  · split at hd
    · rw [List.mem_singleton.mp hd, Decl.idents, Option.toList_none, List.flatMap_nil,
        List.append_nil, List.flatMap_map, refersTo_flatMap]
      exact fun m hm => refersTo_callerSpec hm
    · cases hd
  · rw [idents_of_mem_callerSection hd]
    simp [RefersTo, hclient]
  · exact refersTo_callFunc hm
  · exact refersTo_handleDecls hm hd

/-! ## All messages -/

theorem callFunc_mem_declarations (hm : m ∈ s.methods) :
    Decl.func (callFunc s m) ∈ declarations s := by
  rw [declarations_eq, List.mem_append, List.mem_flatMap]
  exact Or.inr ⟨m, hm, List.mem_append_left _ (List.mem_singleton_self _)⟩

theorem mem_declarations_of_mem_handleDecls (hm : m ∈ s.methods) {side : Side} {d : Decl}
    (hd : d ∈ handleDecls s m side) : d ∈ declarations s := by
  rw [declarations_eq]
  simp only [List.mem_append, List.mem_flatMap]
  cases side with
  | server => exact Or.inl (Or.inl (Or.inl (Or.inl (Or.inr ⟨m, hm, hd⟩))))
  | client => exact Or.inr ⟨m, hm, Or.inr hd⟩

theorem operationFunc_mem_declarations (hm : m ∈ s.methods) {side : Side} {op : Operation}
    (hop : op ∈ m.flow.operations side) :
    Decl.func (operationFunc s m side op) ∈ declarations s := by
  have hstreams : m.flow.streams = true := by
    by_contra hunary
    rw [operations_eq_nil (Bool.eq_false_iff.mpr hunary)] at hop
    cases hop
  have hhandle : Decl.func (operationFunc s m side op) ∈ handleDecls s m side := by
    rw [handleDecls, if_pos hstreams]
    exact List.mem_cons_of_mem _ (List.mem_cons_of_mem _ (List.mem_map_of_mem hop))
  exact mem_declarations_of_mem_handleDecls hm hhandle

/-- The server's handle receives the requests of a stream. -/
theorem receive_mem_operations {f : Flow} (h : f.streamsRequests = true) :
    .receive ∈ f.operations .server := by
  cases f <;> first | exact absurd h (by decide) | simp [Flow.operations]

/-- The client's handle receives the responses, be they a stream or one at the end. -/
theorem exists_receives_output (h : m.flow.streams = true) :
    ∃ op ∈ m.flow.operations .client, operationMessage m .client op = m.output := by
  cases hf : m.flow with
  | unary => rw [hf] at h; exact absurd h (by decide)
  | clientStreaming => exact ⟨.closeAndReceive, by decide, rfl⟩
  | serverStreaming => exact ⟨.receive, by decide, rfl⟩
  | bidirectional => exact ⟨.receive, by decide, rfl⟩

/-- A stub names every message. -/
theorem exists_mem_idents_of_isMessage (hi : IsMessage s i) :
    ∃ d ∈ declarations s, i ∈ d.idents := by
  obtain ⟨m, hm, rfl | rfl⟩ := hi
  · cases hrequests : m.flow.streamsRequests with
    | true =>
      refine ⟨_, operationFunc_mem_declarations hm (receive_mem_operations hrequests), ?_⟩
      rw [idents_operationFunc]
      exact List.mem_cons_self
    | false =>
      refine ⟨_, callFunc_mem_declarations hm, ?_⟩
      rw [idents_callFunc, hrequests]
      simp
  · cases hstreams : m.flow.streams with
    | true =>
      obtain ⟨op, hop, hmessage⟩ := exists_receives_output hstreams
      refine ⟨_, operationFunc_mem_declarations hm hop, ?_⟩
      rw [idents_operationFunc, hmessage]
      exact List.mem_cons_self
    | false =>
      refine ⟨_, callFunc_mem_declarations hm, ?_⟩
      rw [idents_callFunc, hstreams]
      simp

/-- So the import paths in the text of a stub are those of the runtime and of the messages. -/
theorem mem_programPaths_iff {p : String} (hp : p ∉ runtimePaths) :
    p ∈ (programIdents (program s)).map (·.importPath) ↔
      ∃ i, IsMessage s i ∧ i.importPath = p := by
  rw [programIdents_program, List.mem_map]
  simp only [List.mem_flatMap, programIdents_decl]
  constructor
  · rintro ⟨i, ⟨d, hd, hi⟩, rfl⟩
    rcases refersTo_declarations hd i hi with hruntime | hmessage
    · exact absurd (List.mem_map_of_mem hruntime) hp
    · exact ⟨i, hmessage, rfl⟩
  · rintro ⟨i, hi, rfl⟩
    obtain ⟨d, hd, hmem⟩ := exists_mem_idents_of_isMessage hi
    exact ⟨i, ⟨d, hd, hmem⟩, rfl⟩

end GoStubs.Stub
