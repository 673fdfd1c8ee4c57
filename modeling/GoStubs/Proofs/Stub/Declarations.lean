import GoStubs.Proofs.Go.Declared
import GoStubs.Proofs.Stub.Emission
import GoStubs.Proofs.Stub.Names
import Mathlib.Data.List.Basic
/-!
# What a stub declares

The answers of each look-up in the declarations of a service. The methods of a handle and its
interface belong to one method of the service, which the distinct Go names of the methods tell
apart from all others; everything else is declared once for a service.

* `filterMap_declarations`: a look-up, part by part.
* `methodsOn_callerReceiver`, `methodsOn_handleReceiver`: the methods of clients and of handles.
* `interfacesNamed_stream`: the interface of a handle.
-/

namespace GoStubs.Stub

open GoStubs.Go GoStubs.Rpc

variable {α β κ : Type}

/-! ## Elements with a key of their own -/

/-- Where no two elements share a key, an element is all that its key selects. -/
theorem flatMap_eq_of_nodup {key : α → κ} {l : List α} {a : α} {f : α → List β}
    (hnd : (l.map key).Nodup) (ha : a ∈ l) (hf : ∀ b, key b ≠ key a → f b = []) :
    l.flatMap f = f a := by
  induction l with
  | nil => cases ha
  | cons b l ih =>
    obtain ⟨hb, hl⟩ := List.nodup_cons.mp hnd
    rw [List.flatMap_cons]
    rcases List.mem_cons.mp ha with rfl | ha
    · have hrest : l.flatMap f = [] := List.flatMap_eq_nil_iff.mpr fun c hc =>
        hf c fun hkey => hb (hkey ▸ List.mem_map_of_mem hc)
      rw [hrest, List.append_nil]
    · have hhead : f b = [] := hf b fun hkey => hb (hkey ▸ List.mem_map_of_mem ha)
      rw [hhead, List.nil_append, ih hl ha]

theorem filter_eq_of_nodup [DecidableEq κ] {key : α → κ} {l : List α} {a : α}
    (hnd : (l.map key).Nodup) (ha : a ∈ l) : l.filter (key · = key a) = [a] := by
  induction l with
  | nil => cases ha
  | cons b l ih =>
    obtain ⟨hb, hl⟩ := List.nodup_cons.mp hnd
    rcases List.mem_cons.mp ha with rfl | ha
    · have hrest : l.filter (key · = key a) = [] := List.filter_eq_nil_iff.mpr fun c hc hkey =>
        hb (of_decide_eq_true hkey ▸ List.mem_map_of_mem hc)
      rw [List.filter_cons_of_pos (by simp), hrest]
    · have hne : key b ≠ key a := fun hkey => hb (hkey ▸ List.mem_map_of_mem ha)
      rw [List.filter_cons_of_neg (by simpa using hne), ih hl ha]

/-! ## The declarations of a stub -/

/-- The declarations of a side's handle. -/
def handleDecls (s : Service) (m : Method) (side : Side) : List Decl :=
  if m.flow.streams then
    handleInterface s m side :: handleStruct s m side ::
      (m.flow.operations side).map fun op => .func (operationFunc s m side op)
  else []

theorem flatten_handleSections (s : Service) (m : Method) (side : Side) :
    (handleSections s m side).flatten = handleDecls s m side := by
  unfold handleSections handleDecls
  split
  · simp [List.flatten_eq_flatMap, List.flatMap_map, ← List.map_eq_flatMap]
  · rfl

theorem flatten_callerInterfaceSections (s : Service) :
    (callerInterfaceSections s).flatten =
      if s.hasStreams then
        [.interface (clientInterface s.goName) (s.methods.map (callerSpec s)) none]
      else [] := by
  unfold callerInterfaceSections
  split <;> rfl

theorem declarations_eq (s : Service) :
    declarations s =
      [implementationInterface s] ++ s.methods.flatMap (handleDecls s · .server) ++
        [.func (registerFunc s)] ++ (callerInterfaceSections s).flatten ++ callerSection s ++
        s.methods.flatMap fun m => [.func (callFunc s m)] ++ handleDecls s m .client := by
  have hflat : ∀ f : Method → List Section,
      (s.methods.flatMap f).flatten = s.methods.flatMap fun m => (f m).flatten := fun f => by
    simp only [List.flatten_eq_flatMap, List.flatMap_assoc]
  simp [declarations, sections, implementationSections, callerSections, hflat,
    flatten_handleSections]

/-- A look-up answers for a stub what it answers for its parts, one after the other. -/
theorem filterMap_declarations (look : Decl → Option β) (s : Service) :
    (declarations s).filterMap look =
      [implementationInterface s].filterMap look ++
        s.methods.flatMap (fun m => (handleDecls s m .server).filterMap look) ++
        [.func (registerFunc s)].filterMap look ++
        (callerInterfaceSections s).flatten.filterMap look ++ (callerSection s).filterMap look ++
        s.methods.flatMap fun m =>
          [.func (callFunc s m)].filterMap look ++ (handleDecls s m .client).filterMap look := by
  rw [declarations_eq]
  simp only [List.filterMap_append, List.filterMap_flatMap]

/-- A look-up that finds neither calls nor anything of a handle asks the declarations that a stub
has once. -/
theorem filterMap_of_handles_nil {look : Decl → Option β} {s : Service}
    (hhandle : ∀ m side, (handleDecls s m side).filterMap look = [])
    (hcall : ∀ m, look (.func (callFunc s m)) = none) :
    (declarations s).filterMap look =
      [implementationInterface s].filterMap look ++ [.func (registerFunc s)].filterMap look ++
        (callerInterfaceSections s).flatten.filterMap look ++
        (callerSection s).filterMap look := by
  have hserver : s.methods.flatMap (fun m => (handleDecls s m .server).filterMap look) = [] :=
    List.flatMap_eq_nil_iff.mpr fun m _ => hhandle m .server
  have hclient : (s.methods.flatMap fun m =>
      [.func (callFunc s m)].filterMap look ++ (handleDecls s m .client).filterMap look) = [] :=
    List.flatMap_eq_nil_iff.mpr fun m _ => by simp [hcall m, hhandle m .client]
  rw [filterMap_declarations, hserver, hclient, List.append_nil, List.append_nil]

/-- A look-up that finds nothing outside the handle of one method and one side asks that handle. -/
theorem filterMap_of_handle {look : Decl → Option β} {s : Service} {m : Method} {side : Side}
    (hnames : (s.methods.map (·.goName)).Nodup) (hm : m ∈ s.methods)
    (hhandle : ∀ b side', ¬ (b.goName = m.goName ∧ side' = side) →
      (handleDecls s b side').filterMap look = [])
    (hcall : ∀ b, look (.func (callFunc s b)) = none)
    (hservice : look (implementationInterface s) = none)
    (hregister : look (.func (registerFunc s)) = none)
    (hclient : (callerInterfaceSections s).flatten.filterMap look = [])
    (hcaller : (callerSection s).filterMap look = []) :
    (declarations s).filterMap look = (handleDecls s m side).filterMap look := by
  have hselect : ∀ side', s.methods.flatMap (fun b => (handleDecls s b side').filterMap look) =
      (handleDecls s m side').filterMap look := fun side' =>
    flatMap_eq_of_nodup hnames hm fun b hb => hhandle b side' fun h => hb h.1
  have hcalls : ∀ b, [Decl.func (callFunc s b)].filterMap look = [] := fun b => by simp [hcall b]
  have hfixed : [implementationInterface s].filterMap look = [] ∧
      [Decl.func (registerFunc s)].filterMap look = [] := by simp [hservice, hregister]
  rw [filterMap_declarations, hfixed.1, hfixed.2, hclient, hcaller]
  simp only [hcalls, List.nil_append, List.append_nil, hselect]
  cases side with
  | server => rw [hhandle m .client (by simp), List.append_nil]
  | client => rw [hhandle m .server (by simp), List.nil_append]

/-! ## Methods of clients and handles -/

theorem callerReceiver_ne_handleReceiver (s : Service) (m : Method) (side : Side) :
    callerReceiver s ≠ handleReceiver s m side := by
  intro h
  have hname : "c" = "x" := congrArg Param.name h
  exact absurd hname (by decide)

theorem handleReceiver_inj {s : Service} {m m' : Method} {side side' : Side} :
    handleReceiver s m side = handleReceiver s m' side' ↔
      m.goName = m'.goName ∧ side = side' := by
  simp [handleReceiver, handleWrapper, streamWrapper_inj]

theorem operations_eq_nil {f : Flow} (h : f.streams = false) (side : Side) :
    f.operations side = [] := by
  cases f <;> first | rfl | exact absurd h (by decide)

theorem methodsWhere_handleDecls (p : Param → Bool) (s : Service) (m : Method) (side : Side) :
    methodsWhere p (handleDecls s m side) =
      if p (handleReceiver s m side) then (m.flow.operations side).map (operationFunc s m side)
      else [] := by
  cases hm : m.flow.streams with
  | false => simp [handleDecls, hm, operations_eq_nil hm, methodsWhere]
  | true =>
    by_cases hr : p (handleReceiver s m side)
    · simp [handleDecls, hm, hr, methodsWhere, handleInterface, handleStruct, operationFunc,
        List.filterMap_map]
    · simp [handleDecls, hm, hr, methodsWhere, handleInterface, handleStruct, operationFunc,
        List.filterMap_map]

/-- The receivers of a stub: that of the client structure, on which each method of the service has
its call, and that of each handle, on which the method has its operations. -/
theorem methodsWhere_declarations (p : Param → Bool) (s : Service) :
    methodsWhere p (declarations s) =
      s.methods.flatMap (fun m =>
        if p (handleReceiver s m .server) then
          (m.flow.operations .server).map (operationFunc s m .server)
        else []) ++
      s.methods.flatMap fun m =>
        (if p (callerReceiver s) then [callFunc s m] else []) ++
          if p (handleReceiver s m .client) then
            (m.flow.operations .client).map (operationFunc s m .client)
          else [] := by
  have hcall : ∀ m, methodsWhere p [.func (callFunc s m)] =
      if p (callerReceiver s) then [callFunc s m] else [] := fun m => by
    by_cases hr : p (callerReceiver s) <;> simp [methodsWhere, callFunc, hr]
  have hinterface : methodsWhere p (callerInterfaceSections s).flatten = [] := by
    rw [flatten_callerInterfaceSections]
    split <;> rfl
  have hfixed : methodsWhere p [implementationInterface s] = [] ∧
      methodsWhere p [.func (registerFunc s)] = [] ∧ methodsWhere p (callerSection s) = [] :=
    ⟨rfl, rfl, rfl⟩
  have hhandle := methodsWhere_handleDecls p s
  unfold methodsWhere at hcall hinterface hfixed hhandle ⊢
  rw [filterMap_declarations, hfixed.1, hfixed.2.1, hfixed.2.2, hinterface]
  simp only [hcall, hhandle, List.nil_append, List.append_nil]

/-- The methods of the client structure are the calls, one for each method of the service. -/
theorem methodsOn_callerReceiver (s : Service) :
    methodsOn (callerReceiver s) (declarations s) = s.methods.map (callFunc s) := by
  have hhandle : ∀ m side, handleReceiver s m side ≠ callerReceiver s := fun m side =>
    (callerReceiver_ne_handleReceiver s m side).symm
  rw [methodsOn, methodsWhere_declarations]
  simp [hhandle, List.map_eq_flatMap]

theorem filter_methodsOn_callerReceiver {s : Service} {m : Method}
    (hnames : (s.methods.map (·.goName)).Nodup) (hm : m ∈ s.methods) :
    (methodsOn (callerReceiver s) (declarations s)).filter (·.name = m.goName) =
      [callFunc s m] := by
  rw [methodsOn_callerReceiver, List.filter_map, ← List.map_singleton,
    ← filter_eq_of_nodup hnames hm]
  rfl

/-- The methods of a handle are the operations that the flow of its method allows. -/
theorem methodsOn_handleReceiver {s : Service} {m : Method}
    (hnames : (s.methods.map (·.goName)).Nodup) (hm : m ∈ s.methods) (side : Side) :
    methodsOn (handleReceiver s m side) (declarations s) =
      (m.flow.operations side).map (operationFunc s m side) := by
  have hcaller : callerReceiver s ≠ handleReceiver s m side :=
    callerReceiver_ne_handleReceiver s m side
  rw [methodsOn, methodsWhere_declarations]
  simp only [hcaller, decide_false, Bool.false_eq_true, if_false, List.nil_append,
    handleReceiver_inj, decide_eq_true_eq]
  cases side with
  | server =>
    rw [flatMap_eq_of_nodup hnames hm fun b hb => if_neg fun h => hb h.1]
    simp
  | client =>
    have hclient := flatMap_eq_of_nodup (f := fun b : Method =>
      if b.goName = m.goName ∧ Side.client = Side.client then
        (b.flow.operations .client).map (operationFunc s b .client) else []) hnames hm
      fun b hb => if_neg fun h => hb h.1
    rw [hclient]
    simp

theorem methodsWhere_congr {p q : Param → Bool} {s : Service}
    (hcaller : p (callerReceiver s) = q (callerReceiver s))
    (hhandle : ∀ m ∈ s.methods, ∀ side, p (handleReceiver s m side) = q (handleReceiver s m side)) :
    methodsWhere p (declarations s) = methodsWhere q (declarations s) := by
  rw [methodsWhere_declarations, methodsWhere_declarations]
  congr 1
  · exact List.flatMap_congr fun m hm => by rw [hhandle m hm]
  · exact List.flatMap_congr fun m hm => by rw [hcaller, hhandle m hm]

/-- Where every method has a name, the methods of the client structure need not be told from
those of handles by what their receivers are called. -/
theorem methodsOf_clientStruct {s : Service} (hne : ∀ m ∈ s.methods, m.goName ≠ "") :
    methodsOf (clientStruct s.goName) (declarations s) =
      methodsOn (callerReceiver s) (declarations s) := by
  refine methodsWhere_congr (by simp [callerReceiver]) fun m hm side => ?_
  have hstruct := streamWrapper_ne_clientStruct s.goName side (hne m hm)
  simp [handleReceiver, callerReceiver, handleWrapper, hstruct]

/-- The same for the methods of a handle whose method has a name. -/
theorem methodsOf_handleWrapper {s : Service} {m : Method} (side : Side) (hne : m.goName ≠ "") :
    methodsOf (handleWrapper s m side) (declarations s) =
      methodsOn (handleReceiver s m side) (declarations s) := by
  refine methodsWhere_congr ?_ fun m' hm' side' => ?_
  · have hstruct := (streamWrapper_ne_clientStruct s.goName side hne).symm
    simp [handleReceiver, callerReceiver, handleWrapper, hstruct]
  · simp [handleReceiver]

/-! ## Interfaces -/

theorem interfacesNamed_handleDecls (name : String) (s : Service) (m : Method) (side : Side) :
    interfacesNamed name (handleDecls s m side) =
      if m.flow.streams ∧ streamInterface s.goName m.goName side = name then
        [((m.flow.operations side).map (operationSpec m side), some (.named (streamEnd side)))]
      else [] := by
  cases hm : m.flow.streams with
  | false => simp [handleDecls, hm, interfacesNamed]
  | true =>
    by_cases hn : streamInterface s.goName m.goName side = name <;>
      simp [handleDecls, hm, hn, interfacesNamed, handleInterface, handleStruct,
        List.filterMap_map]

/-- The interface of implementations lists every method of the service. -/
theorem interfacesNamed_service (s : Service) :
    interfacesNamed (serviceInterface s.goName) (declarations s) =
      [(s.methods.map (implementationSpec s), none)] := by
  have hhandle : ∀ m side,
      interfacesNamed (serviceInterface s.goName) (handleDecls s m side) = [] := fun m side => by
    simp [interfacesNamed_handleDecls, streamInterface_ne_serviceInterface]
  have hclient : interfacesNamed (serviceInterface s.goName)
      (callerInterfaceSections s).flatten = [] := by
    rw [flatten_callerInterfaceSections]
    split <;> simp [interfacesNamed, clientInterface_ne_serviceInterface]
  unfold interfacesNamed at hhandle hclient ⊢
  rw [filterMap_of_handles_nil hhandle fun _ => rfl, hclient]
  simp [implementationInterface, callerSection]

/-- The interface of clients lists every method of the service, where there is one. -/
theorem interfacesNamed_client (s : Service) :
    interfacesNamed (clientInterface s.goName) (declarations s) =
      if s.hasStreams then [(s.methods.map (callerSpec s), none)] else [] := by
  have hhandle : ∀ m side,
      interfacesNamed (clientInterface s.goName) (handleDecls s m side) = [] := fun m side => by
    simp [interfacesNamed_handleDecls, streamInterface_ne_clientInterface]
  have hservice : ¬ serviceInterface s.goName = clientInterface s.goName :=
    (clientInterface_ne_serviceInterface s.goName).symm
  unfold interfacesNamed at hhandle ⊢
  rw [filterMap_of_handles_nil hhandle fun _ => rfl, flatten_callerInterfaceSections]
  cases s.hasStreams <;> simp [implementationInterface, callerSection, hservice]

/-- The interface of a handle lists the operations that the flow of its method allows, and embeds
the runtime's end of the stream. -/
theorem interfacesNamed_stream {s : Service} {m : Method}
    (hnames : (s.methods.map (·.goName)).Nodup) (hm : m ∈ s.methods) (hs : m.flow.streams = true)
    (side : Side) :
    interfacesNamed (streamInterface s.goName m.goName side) (declarations s) =
      [((m.flow.operations side).map (operationSpec m side), some (.named (streamEnd side)))] := by
  have hhandle : ∀ b side', ¬ (b.goName = m.goName ∧ side' = side) →
      interfacesNamed (streamInterface s.goName m.goName side) (handleDecls s b side') = [] :=
    fun b side' hne => by
      rw [interfacesNamed_handleDecls, if_neg fun h => hne (streamInterface_inj.mp h.2)]
  have hclient : interfacesNamed (streamInterface s.goName m.goName side)
      (callerInterfaceSections s).flatten = [] := by
    rw [flatten_callerInterfaceSections]
    split <;> simp [interfacesNamed, (streamInterface_ne_clientInterface _ _ _).symm]
  have hown := interfacesNamed_handleDecls (streamInterface s.goName m.goName side) s m side
  rw [if_pos ⟨hs, rfl⟩] at hown
  unfold interfacesNamed at hhandle hclient hown ⊢
  rw [filterMap_of_handle hnames hm hhandle (fun _ => rfl) ?_ rfl hclient rfl, hown]
  simp [implementationInterface, (streamInterface_ne_serviceInterface _ _ _).symm]

/-! ## Structures -/

theorem embeddedIn_handleDecls (name : String) (s : Service) (m : Method) (side : Side) :
    embeddedIn name (handleDecls s m side) =
      if m.flow.streams ∧ handleWrapper s m side = name then [.named (streamEnd side)] else [] := by
  cases hm : m.flow.streams with
  | false => simp [handleDecls, hm, embeddedIn]
  | true =>
    by_cases hn : handleWrapper s m side = name <;>
      simp [handleDecls, hm, hn, embeddedIn, handleInterface, handleStruct, List.filterMap_map]

/-- The structure behind a handle embeds what the interface of the handle embeds. -/
theorem embeddedIn_handleWrapper {s : Service} {m : Method}
    (hnames : (s.methods.map (·.goName)).Nodup) (hm : m ∈ s.methods) (hs : m.flow.streams = true)
    (side : Side) :
    embeddedIn (handleWrapper s m side) (declarations s) = [.named (streamEnd side)] := by
  have hhandle : ∀ b side', ¬ (b.goName = m.goName ∧ side' = side) →
      embeddedIn (handleWrapper s m side) (handleDecls s b side') = [] := fun b side' hne => by
    rw [embeddedIn_handleDecls, if_neg fun h => hne (streamWrapper_inj.mp h.2)]
  have hclient : embeddedIn (handleWrapper s m side) (callerInterfaceSections s).flatten = [] := by
    rw [flatten_callerInterfaceSections]
    split <;> rfl
  have hown := embeddedIn_handleDecls (handleWrapper s m side) s m side
  rw [if_pos ⟨hs, rfl⟩] at hown
  unfold embeddedIn at hhandle hclient hown ⊢
  rw [filterMap_of_handle hnames hm hhandle (fun _ => rfl) rfl rfl hclient rfl, hown]

/-! ## Functions -/

theorem functionsNamed_handleDecls (name : String) (s : Service) (m : Method) (side : Side) :
    functionsNamed name (handleDecls s m side) = [] := by
  unfold handleDecls
  split <;> simp [functionsNamed, handleInterface, handleStruct, operationFunc,
    List.filterMap_map]

theorem functionsNamed_callerInterfaceSections (name : String) (s : Service) :
    functionsNamed name (callerInterfaceSections s).flatten = [] := by
  rw [flatten_callerInterfaceSections]
  split <;> rfl

/-- One function registers an implementation. -/
theorem functionsNamed_registerFunction (s : Service) :
    functionsNamed (registerFunction s.goName) (declarations s) = [registerFunc s] := by
  have hhandle := functionsNamed_handleDecls (registerFunction s.goName) s
  have hclient := functionsNamed_callerInterfaceSections (registerFunction s.goName) s
  have hname : ¬ clientConstructor s.goName = registerFunction s.goName :=
    (registerFunction_ne_clientConstructor _ _).symm
  unfold functionsNamed at hhandle hclient ⊢
  rw [filterMap_of_handles_nil hhandle fun _ => by simp [callFunc], hclient]
  simp [implementationInterface, callerSection, registerFunc, constructorFunc, hname]

/-- One function makes a client. -/
theorem functionsNamed_clientConstructor (s : Service) :
    functionsNamed (clientConstructor s.goName) (declarations s) = [constructorFunc s] := by
  have hhandle := functionsNamed_handleDecls (clientConstructor s.goName) s
  have hclient := functionsNamed_callerInterfaceSections (clientConstructor s.goName) s
  have hname : ¬ registerFunction s.goName = clientConstructor s.goName :=
    registerFunction_ne_clientConstructor _ _
  unfold functionsNamed at hhandle hclient ⊢
  rw [filterMap_of_handles_nil hhandle fun _ => by simp [callFunc], hclient]
  simp [implementationInterface, callerSection, registerFunc, constructorFunc, hname]

/-- A stub makes one registration. -/
theorem registrations_declarations (s : Service) :
    registrations (declarations s) = [registration s] := by
  have hhandle : ∀ m side, registrations (handleDecls s m side) = [] := fun m side => by
    unfold handleDecls
    split <;> simp [registrations, handleInterface, handleStruct, operationFunc,
      List.filterMap_map]
  have hclient : registrations (callerInterfaceSections s).flatten = [] := by
    rw [flatten_callerInterfaceSections]
    split <;> rfl
  unfold registrations at hhandle hclient ⊢
  rw [filterMap_of_handles_nil hhandle fun _ => rfl, hclient]
  rfl

end GoStubs.Stub
