import GoStubs.Proofs.Go.Tidy
import GoStubs.Proofs.Go.Words
import GoStubs.Proofs.Stub.Registration
import GoStubs.Proofs.Stub.Series
/-!
# Stubs are laid out

Generated code is laid out as Go's formatter would do it, whatever the services of a file are.
Which frames stand around the lines of a declaration is settled by how declarations are printed;
what is left to see is that no name in a stub gets in the way. The names are those of a description
with words that are put in front or behind, and since these words are at the ends of most lines,
little is asked of the names themselves.

* `PlainNames`: services whose names consist of letters, digits and underscores.
* `tidy_declarations`: the declarations of such a service.
* `Formatted`, `generateAll?_formatted`: the stubs of any number of them.
-/

namespace GoStubs.Stub

open GoStubs.Go GoStubs.Rpc
open GoStubs.Text (lower lowerFrom lowerSigma)
open GoStubs.Unicode

/-! ## Changing the case of names -/

theorem toLower_ne {c d : Char} (hd : d.isLower = false) (h : c ≠ d) : c.toLower ≠ d := by
  intro heq
  by_cases hc : c.isUpper
  · have hlower : c.toLower.isLower = true := by simp [Char.isAlpha, hc]
    rw [heq, hd] at hlower
    exact absurd hlower (by decide)
  · exact h (Char.toLower_eq_of_not_isUpper hc ▸ heq)

/-- No character has a lower-case form that ends a line. -/
theorem newline_not_mem_lowerChar {c : Char} (h : c ≠ '\n') : '\n' ∉ lowerChar c := by
  have hruns : ∀ r ∈ lowerRuns, 10 < (r.first : Int) + r.shift := by decide +kernel
  unfold lowerChar
  split
  · simpa using (toLower_ne (by decide) h).symm
  · split
    · decide
    · split
      · next r hr =>
        have hcontains := List.find?_some hr
        have hshift := hruns r (List.mem_of_find?_eq_some hr)
        simp only [LowerRun.contains, Bool.and_eq_true, decide_eq_true_eq] at hcontains
        rw [List.mem_singleton]
        intro heq
        have hcode : 10 = (Char.ofNat (c.toNat + r.shift).toNat).toNat := congrArg Char.toNat heq
        rw [Char.toNat_ofNat] at hcode
        split at hcode
        · omega
        · cases hcode
      · simpa using h.symm

theorem newline_not_mem_lowerFrom {cs : List Char} : ∀ {before : List Char}, '\n' ∉ cs →
    '\n' ∉ lowerFrom before cs := by
  induction cs with
  | nil => exact fun h => h
  | cons c cs ih =>
    intro before h
    rw [List.mem_cons, not_or] at h
    obtain ⟨hc, hcs⟩ := h
    rw [lowerFrom, List.mem_append, not_or]
    refine ⟨?_, ih hcs⟩
    split
    · -- A sigma has two lower-case forms.
      unfold lowerSigma
      split <;> decide
    · exact newline_not_mem_lowerChar (Ne.symm hc)

theorem oneLine_lower {s : String} (h : OneLine s) : OneLine (lower s) := by
  rw [OneLine, lower, String.toList_ofList]
  exact newline_not_mem_lowerFrom h

theorem oneLine_decapitalize {s : String} (h : OneLine s) : OneLine (decapitalize s) := by
  unfold decapitalize
  split
  · decide
  · next c cs hs =>
    rw [OneLine, hs, List.mem_cons, not_or] at h
    rw [OneLine, String.toList_ofList, List.mem_cons, not_or]
    exact ⟨(toLower_ne (by decide) (Ne.symm h.1)).symm, h.2⟩

/-! ## Services with plain names -/

/-- Whether the names of a method consist of letters, digits and underscores. Its messages have a
name at all. The name on the wire is free as long as it stands on one line; that it does follows if
the Go name has been made of it. -/
structure PlainMethod (m : Method) : Prop where
  goName : IsWord m.goName
  input : IsWord m.input.name ∧ m.input.name ≠ ""
  output : IsWord m.output.name ∧ m.output.name ≠ ""
  name : m.goName = exportedName m.name ∨ OneLine m.name

/-- Whether the names of a service and of its methods consist of letters, digits and underscores,
and the full name of dots as well. -/
structure PlainNames (s : Service) : Prop where
  fullName : ∀ c ∈ s.fullName.toList, isIdentifierChar c = true ∨ c = '.'
  goName : IsWord s.goName
  methods : ∀ m ∈ s.methods, PlainMethod m

theorem PlainMethod.oneLine_name {m : Method} (h : PlainMethod m) : OneLine m.name := by
  rcases h.name with heq | hline
  · exact oneLine_of_exportedName (heq ▸ h.goName.oneLine)
  · exact hline

theorem PlainNames.oneLine_fullName {s : Service} (h : PlainNames s) : OneLine s.fullName := by
  intro hmem
  rcases h.fullName _ hmem with hchar | hdot
  · exact absurd hchar (by decide)
  · exact absurd hdot (by decide)

section

variable {imports : Imports} {s : Service} {m : Method}

/-! ## Types -/

theorem tidy_ident (himports : imports.Valid) {i : Ident} (hi : IsWord i.name ∧ i.name ≠ "") :
    (Ty.named i).Tidy imports :=
  tidy_named (oneLine_spell himports hi.1) (ends_spell imports hi.1 hi.2)

theorem tidy_contextTy (himports : imports.Valid) : contextTy.Tidy imports :=
  tidy_ident himports ⟨by decide, by decide⟩

theorem tidy_inputTy (himports : imports.Valid) (hm : PlainMethod m) : (inputTy m).Tidy imports :=
  (tidy_ident himports hm.input).pointer

theorem tidy_outputTy (himports : imports.Valid) (hm : PlainMethod m) : (outputTy m).Tidy imports :=
  (tidy_ident himports hm.output).pointer

theorem isWord_sideSuffix (side : Side) : IsWord (sideSuffix side) := by
  cases side <;> decide

theorem ends_sideSuffix (side : Side) : Ends false (sideSuffix side) := by
  cases side <;> decide

theorem oneLine_streamInterface (hs : PlainNames s) (hm : PlainMethod m) (side : Side) :
    OneLine (streamInterface s.goName m.goName side) := by
  simp only [streamInterface, oneLine_append]
  exact ⟨⟨⟨hs.goName.oneLine, by decide⟩, hm.goName.oneLine⟩, (isWord_sideSuffix side).oneLine⟩

theorem oneLine_handleWrapper (hs : PlainNames s) (hm : PlainMethod m) (side : Side) :
    OneLine (handleWrapper s m side) := by
  simp only [handleWrapper, streamWrapper, oneLine_append]
  exact ⟨⟨oneLine_lower hs.goName.oneLine, hm.goName.oneLine⟩, (isWord_sideSuffix side).oneLine⟩

theorem tidy_handleTy (hs : PlainNames s) (hm : PlainMethod m) (side : Side) :
    (handleTy s m side).Tidy imports :=
  tidy_declared (oneLine_streamInterface hs hm side) ((ends_sideSuffix side).append _)

/-! ## Handles -/

theorem plain_operationMessage (hm : PlainMethod m) (side : Side) (op : Operation) :
    IsWord (operationMessage m side op).name ∧ (operationMessage m side op).name ≠ "" := by
  cases side <;> cases op <;> first | exact hm.input | exact hm.output

theorem plain_streamEnd (side : Side) :
    IsWord (streamEnd side).name ∧ (streamEnd side).name ≠ "" := by
  cases side <;> exact ⟨by decide, by decide⟩

theorem oneLine_operationName (op : Operation) : OneLine (operationName op) := by
  cases op <;> decide

theorem starts_operationName (op : Operation) : Starts false (operationName op) := by
  cases op <;> decide

theorem tidy_operationParams (himports : imports.Valid) {message : Ident}
    (hmessage : IsWord message.name ∧ message.name ≠ "") (op : Operation) :
    ∀ p ∈ operationParams message op, p.Tidy imports := by
  have hty := (tidy_ident himports hmessage).pointer
  have hname : OneLine "m" := by decide
  cases op with
  | send => exact List.forall_mem_singleton.mpr ⟨hname, hty.oneLine⟩
  | receive | closeAndReceive => exact nofun

theorem tidy_operationResults (himports : imports.Valid) {message : Ident}
    (hmessage : IsWord message.name ∧ message.name ≠ "") (op : Operation) :
    ∀ ty ∈ operationResults message op, ty.Tidy imports := by
  have hty := (tidy_ident himports hmessage).pointer
  cases op with
  | send => exact List.forall_mem_singleton.mpr tidy_error
  | receive | closeAndReceive =>
    exact List.forall_mem_cons.mpr ⟨hty, List.forall_mem_singleton.mpr tidy_error⟩

theorem tidy_operationSpec (himports : imports.Valid) (hm : PlainMethod m) (side : Side)
    (op : Operation) : (operationSpec m side op).Tidy imports := by
  have hmessage := plain_operationMessage hm side op
  refine ⟨oneLine_operationName op, (starts_operationName op).append _, ?_,
    tidy_operationResults himports hmessage op⟩
  cases op with
  | send => exact List.forall_mem_singleton.mpr (tidy_ident himports hmessage).pointer
  | receive | closeAndReceive => exact nofun

theorem tidy_endCall (side : Side) {method : String} (hmethod : OneLine method)
    {args : List Operand} (hargs : ∀ o ∈ args, o.Tidy) : (endCall side method args).Tidy := by
  refine ⟨?_, hargs⟩
  simp only [endCall, List.forall_mem_cons]
  exact ⟨by decide, (plain_streamEnd side).1.oneLine, hmethod, nofun⟩

/-- The variables of the bodies are named by a letter. -/
theorem tidy_var {name : String} (hline : OneLine name) (hends : Ends false name) :
    ∀ o ∈ [Operand.var name], o.Tidy := List.forall_mem_singleton.mpr ⟨hline, hends⟩

theorem tidy_receiveOne (himports : imports.Valid) (side : Side) {message : Ident}
    (hmessage : IsWord message.name ∧ message.name ≠ "") :
    ∀ stmt ∈ receiveOne side message, stmt.Tidy imports := by
  simp only [receiveOne, List.forall_mem_cons]
  refine ⟨⟨⟨by decide, by decide⟩, tidy_ident himports hmessage⟩, ?_, ⟨by simp, ?_⟩, nofun⟩
  · exact tidy_endCall side (by decide) (tidy_var (by decide) (by decide))
  · exact List.forall_mem_cons.mpr ⟨⟨by decide, by decide⟩, List.forall_mem_singleton.mpr trivial⟩

theorem tidy_operationBody (himports : imports.Valid) (side : Side) {message : Ident}
    (hmessage : IsWord message.name ∧ message.name ≠ "") (op : Operation) :
    ∀ stmt ∈ operationBody side message op, stmt.Tidy imports := by
  have hreceive := tidy_receiveOne himports side hmessage
  cases op with
  | send =>
    refine List.forall_mem_singleton.mpr ⟨nofun, ?_⟩
    exact tidy_endCall side (by decide) (tidy_var (by decide) (by decide))
  | receive => exact hreceive
  | closeAndReceive =>
    exact List.forall_mem_cons.mpr ⟨tidy_endCall side (by decide) nofun, hreceive⟩

/-- A receiver, which stands in parentheses. -/
theorem tidy_receiver {name struct : String} (hname : OneLine name) (hstruct : OneLine struct) :
    (⟨name, .pointer (.declared struct)⟩ : Param).Tidy imports := by
  refine ⟨hname, ?_⟩
  rw [Ty.phrase, Ty.phrase, spell_text_cons, spell_text, oneLine_append]
  exact ⟨by decide, hstruct⟩

theorem tidy_operationFunc (himports : imports.Valid) (hs : PlainNames s) (hm : PlainMethod m)
    (side : Side) (op : Operation) : (operationFunc s m side op).Tidy imports := by
  have hmessage := plain_operationMessage hm side op
  have hreceiver : ∀ p ∈ some (handleReceiver s m side), p.Tidy imports := by
    intro p hp
    obtain rfl := Option.some.inj hp
    exact tidy_receiver (by decide) (oneLine_handleWrapper hs hm side)
  exact ⟨hreceiver, oneLine_operationName op, tidy_operationParams himports hmessage op,
    tidy_operationResults himports hmessage op, tidy_operationBody himports side hmessage op⟩

theorem starts_named (himports : imports.Valid) {i : Ident} (hi : IsWord i.name ∧ i.name ≠ "") :
    Starts false ((Ty.named i).phrase.spell imports) := by
  rw [Ty.phrase, spell_cons, spell_nil, String.append_empty, Word.spell]
  exact starts_spell himports hi.1 hi.2

theorem tidy_handleDecls (himports : imports.Valid) (hs : PlainNames s) (hm : PlainMethod m)
    (side : Side) : ∀ d ∈ handleDecls s m side, d.Tidy imports := by
  have hend := tidy_ident himports (plain_streamEnd side)
  have hstarts := starts_named himports (plain_streamEnd side)
  unfold handleDecls
  split
  · refine List.forall_mem_cons.mpr ⟨?_, List.forall_mem_cons.mpr ⟨?_, ?_⟩⟩
    · refine ⟨oneLine_streamInterface hs hm side, ?_, ?_⟩
      · exact List.forall_mem_map.mpr fun op _ => tidy_operationSpec himports hm side op
      · intro ty hty
        obtain rfl := Option.some.inj hty
        exact ⟨hend, hstarts⟩
    · exact ⟨oneLine_handleWrapper hs hm side, hend, hstarts⟩
    · exact List.forall_mem_map.mpr fun op _ => tidy_operationFunc himports hs hm side op
  · exact nofun

/-! ## Implementations -/

theorem tidy_implementationSpec (himports : imports.Valid) (hs : PlainNames s)
    (hm : PlainMethod m) : (implementationSpec s m).Tidy imports := by
  have hcontext := tidy_contextTy himports
  have hinput := tidy_inputTy himports hm
  have houtput := tidy_outputTy himports hm
  have hhandle : (handleTy s m .server).Tidy imports := tidy_handleTy hs hm .server
  have hstarts : Starts false (m.goName ++ "(") := hm.goName.starts (by decide)
  unfold implementationSpec
  split
  all_goals exact ⟨hm.goName.oneLine, hstarts, by simp [hcontext, hinput, hhandle],
    by simp [houtput, tidy_error]⟩

theorem tidy_handlerResults : ∀ ty ∈ handlerResults, ty.Tidy imports :=
  List.forall_mem_cons.mpr ⟨tidy_anything, List.forall_mem_singleton.mpr tidy_error⟩

theorem tidy_methodRow (himports : imports.Valid) (hm : PlainMethod m) (key : String) :
    (methodRow key m).handler.Tidy imports := by
  have hcontext := tidy_contextTy himports
  have hctx : OneLine "ctx" ∧ Ends false "ctx" := ⟨by decide, by decide⟩
  have hreq : OneLine "req" ∧ Ends false "req" := ⟨by decide, by decide⟩
  refine ⟨?_, tidy_handlerResults, ?_⟩
  · refine List.forall_mem_cons.mpr ⟨⟨hctx.1, hcontext.oneLine⟩, List.forall_mem_singleton.mpr ?_⟩
    exact ⟨by decide, tidy_decoder.oneLine⟩
  · refine List.forall_mem_cons.mpr ⟨⟨hreq.1, tidy_ident himports hm.input⟩,
      List.forall_mem_cons.mpr ⟨⟨?_, ?_⟩, List.forall_mem_singleton.mpr ⟨nofun, ?_, ?_⟩⟩⟩
    · exact List.forall_mem_singleton.mpr (by decide)
    · exact List.forall_mem_singleton.mpr hreq
    · exact List.forall_mem_cons.mpr ⟨by decide, List.forall_mem_singleton.mpr hm.goName.oneLine⟩
    · exact List.forall_mem_cons.mpr ⟨hctx, List.forall_mem_singleton.mpr hreq⟩

theorem tidy_streamRow (himports : imports.Valid) (hs : PlainNames s) (hm : PlainMethod m) :
    (streamRow s (routedStream m)).handler.Tidy imports := by
  have hcontext := tidy_contextTy himports
  have hstream := tidy_ident himports (plain_streamEnd .server)
  have hctx : OneLine "ctx" ∧ Ends false "ctx" := ⟨by decide, by decide⟩
  have hvar : ∀ o ∈ [Operand.var "m"], o.Tidy := tidy_var (by decide) (by decide)
  have hwrapped : (Operand.wrapped (handleWrapper s m .server) "stream").Tidy :=
    ⟨oneLine_handleWrapper hs hm .server, by decide⟩
  have hpath : ∀ name ∈ ["svc", m.goName], OneLine name :=
    List.forall_mem_cons.mpr ⟨by decide, List.forall_mem_singleton.mpr hm.goName.oneLine⟩
  refine ⟨?_, tidy_handlerResults, List.forall_mem_append.mpr ⟨?_, ?_⟩⟩
  · exact List.forall_mem_cons.mpr ⟨⟨hctx.1, hcontext.oneLine⟩,
      List.forall_mem_singleton.mpr ⟨by decide, hstream.oneLine⟩⟩
  · -- The request is received here unless the client streams.
    split
    · exact nofun
    · refine List.forall_mem_cons.mpr ⟨⟨⟨by decide, by decide⟩, tidy_ident himports hm.input⟩,
        List.forall_mem_singleton.mpr ⟨?_, hvar⟩⟩
      exact List.forall_mem_cons.mpr ⟨by decide, List.forall_mem_singleton.mpr (by decide)⟩
  · refine List.forall_mem_singleton.mpr ⟨?_, hpath, ?_⟩
    · split
      · exact List.forall_mem_singleton.mpr trivial
      · exact nofun
    · simp only [List.forall_mem_append, List.forall_mem_singleton]
      refine ⟨⟨hctx, ?_⟩, hwrapped⟩
      split
      · exact nofun
      · exact hvar

theorem tidy_registration (himports : imports.Valid) (hs : PlainNames s) :
    (registration s).Tidy imports where
  service := hs.oneLine_fullName
  descriptor := tidy_ident himports ⟨by decide, by decide⟩
  methodType := tidy_ident himports ⟨by decide, by decide⟩
  methods := by
    rw [methods_registration]
    refine List.forall_mem_map.mpr fun m hm => ?_
    have hplain := hs.methods m (List.mem_of_mem_filter hm)
    exact ⟨hplain.goName.oneLine, tidy_methodRow himports hplain m.goName⟩
  streamType := tidy_ident himports ⟨by decide, by decide⟩
  streams := by
    rw [streams_registration]
    refine List.forall_mem_map.mpr fun m hm => ?_
    have hplain := hs.methods m (List.mem_of_mem_filter hm)
    exact ⟨hplain.goName.oneLine, tidy_streamRow himports hs hplain⟩

theorem oneLine_serviceInterface (hs : PlainNames s) : OneLine (serviceInterface s.goName) :=
  oneLine_append.mpr ⟨hs.goName.oneLine, by decide⟩

theorem tidy_registerFunc (himports : imports.Valid) (hs : PlainNames s) :
    (registerFunc s).Tidy imports := by
  have hserver := (tidy_ident himports (i := serverIdent) ⟨by decide, by decide⟩).pointer
  have hservice : (Ty.declared (serviceInterface s.goName)).Tidy imports :=
    tidy_declared (oneLine_serviceInterface hs) (Ends.append (by decide) _)
  have hsvc : OneLine "svc" := by decide
  refine ⟨nofun, oneLine_append.mpr ⟨by decide, oneLine_serviceInterface hs⟩, ?_, nofun,
    tidy_registration himports hs⟩
  exact List.forall_mem_cons.mpr ⟨⟨by decide, hserver.oneLine⟩,
    List.forall_mem_singleton.mpr ⟨hsvc, hservice.oneLine⟩⟩

/-! ## Callers -/

theorem oneLine_clientInterface (hs : PlainNames s) : OneLine (clientInterface s.goName) :=
  oneLine_append.mpr ⟨hs.goName.oneLine, by decide⟩

theorem oneLine_clientStruct (hs : PlainNames s) : OneLine (clientStruct s.goName) :=
  oneLine_decapitalize (oneLine_clientInterface hs)

theorem tidy_returnedInterface (hs : PlainNames s) :
    (Ty.declared (returnedInterface s)).Tidy imports := by
  unfold returnedInterface
  split
  · exact tidy_declared (oneLine_clientInterface hs) (Ends.append (by decide) _)
  · exact tidy_declared (oneLine_serviceInterface hs) (Ends.append (by decide) _)

theorem tidy_callerSpec (himports : imports.Valid) (hs : PlainNames s) (hm : PlainMethod m) :
    (callerSpec s m).Tidy imports := by
  have hcontext := tidy_contextTy himports
  have hinput := tidy_inputTy himports hm
  have houtput := tidy_outputTy himports hm
  have hhandle : (handleTy s m .client).Tidy imports := tidy_handleTy hs hm .client
  have hstarts : Starts false (m.goName ++ "(") := hm.goName.starts (by decide)
  unfold callerSpec
  split
  all_goals exact ⟨hm.goName.oneLine, hstarts, by simp [hcontext, hinput],
    by simp [houtput, hhandle, tidy_error]⟩

theorem tidy_callerSection (himports : imports.Valid) (hs : PlainNames s) :
    ∀ d ∈ callerSection s, d.Tidy imports := by
  have hclient := (tidy_ident himports (i := clientIdent) ⟨by decide, by decide⟩).pointer
  have hfield : OneLine "client" ∧ Starts false "client" := ⟨by decide, by decide⟩
  refine List.forall_mem_cons.mpr ⟨⟨oneLine_clientStruct hs, hfield, hclient⟩,
    List.forall_mem_singleton.mpr ⟨nofun, ?_, ?_, ?_, ?_⟩⟩
  · exact oneLine_append.mpr ⟨by decide, oneLine_clientInterface hs⟩
  · exact List.forall_mem_singleton.mpr ⟨hfield.1, hclient.oneLine⟩
  · exact List.forall_mem_singleton.mpr (tidy_returnedInterface hs)
  · exact List.forall_mem_singleton.mpr ⟨oneLine_clientStruct hs, hfield, hfield.1⟩

theorem tidy_unaryCall (himports : imports.Valid) (hs : PlainNames s) (hm : PlainMethod m) :
    ∀ stmt ∈ unaryCall s m, stmt.Tidy imports := by
  have hctx : OneLine "ctx" ∧ Ends false "ctx" := ⟨by decide, by decide⟩
  have hreq : OneLine "req" ∧ Ends false "req" := ⟨by decide, by decide⟩
  have hresp : OneLine "resp" ∧ Ends false "resp" := ⟨by decide, by decide⟩
  refine List.forall_mem_cons.mpr ⟨⟨hresp.1, tidy_ident himports hm.output⟩,
    List.forall_mem_cons.mpr ⟨⟨?_, ?_⟩, List.forall_mem_singleton.mpr ⟨by simp, ?_⟩⟩⟩
  · simp only [List.forall_mem_cons]
    exact ⟨by decide, by decide, by decide, nofun⟩
  · simp only [List.forall_mem_cons]
    exact ⟨hctx, hs.oneLine_fullName, hm.oneLine_name, hreq, hresp, nofun⟩
  · exact List.forall_mem_cons.mpr ⟨hresp, List.forall_mem_singleton.mpr trivial⟩

theorem tidy_streamingCall (himports : imports.Valid) (hs : PlainNames s) (hm : PlainMethod m) :
    ∀ stmt ∈ streamingCall s m, stmt.Tidy imports := by
  have hx : OneLine "x" ∧ Ends false "x" := ⟨by decide, by decide⟩
  have hopening : (Operand.Tidy (if m.flow.streamsRequests then .nil else .var "req")) := by
    split
    · trivial
    · exact ⟨by decide, by decide⟩
  have hdescriptor := tidy_ident himports (i := streamDescIdent) ⟨by decide, by decide⟩
  simp only [streamingCall, List.forall_mem_cons]
  refine ⟨⟨hdescriptor, hs.oneLine_fullName, hm.goName.oneLine, hopening⟩, trivial, ?_, ?_, nofun⟩
  · exact ⟨⟨hx.1, by decide⟩, oneLine_handleWrapper hs hm .client, by decide⟩
  · exact ⟨by simp, List.forall_mem_cons.mpr ⟨hx, List.forall_mem_singleton.mpr trivial⟩⟩

theorem tidy_callFunc (himports : imports.Valid) (hs : PlainNames s) (hm : PlainMethod m) :
    (callFunc s m).Tidy imports := by
  have hreceiver : ∀ p ∈ some (callerReceiver s), p.Tidy imports := by
    intro p hp
    obtain rfl := Option.some.inj hp
    exact tidy_receiver (by decide) (oneLine_clientStruct hs)
  have hreq : OneLine "req" := by decide
  refine ⟨hreceiver, hm.goName.oneLine, List.forall_mem_cons.mpr ⟨?_, ?_⟩,
    List.forall_mem_cons.mpr ⟨?_, List.forall_mem_singleton.mpr tidy_error⟩, ?_⟩
  · exact ⟨by decide, (tidy_contextTy himports).oneLine⟩
  · split
    · exact nofun
    · exact List.forall_mem_singleton.mpr ⟨hreq, (tidy_inputTy himports hm).oneLine⟩
  · split
    · exact tidy_handleTy hs hm .client
    · exact tidy_outputTy himports hm
  · show ∀ stmt ∈ callBody s m, stmt.Tidy imports
    unfold callBody
    split
    · exact tidy_streamingCall himports hs hm
    · exact tidy_unaryCall himports hs hm

/-! ## Stubs -/

/-- The names in a stub do no harm to its lines. -/
theorem tidy_declarations (himports : imports.Valid) (hs : PlainNames s) :
    ∀ d ∈ declarations s, d.Tidy imports := by
  have hinterface : (implementationInterface s).Tidy imports := by
    refine ⟨oneLine_serviceInterface hs, ?_, nofun⟩
    exact List.forall_mem_map.mpr fun m hm => tidy_implementationSpec himports hs (hs.methods m hm)
  have hcaller : ∀ d ∈ (callerInterfaceSections s).flatten, d.Tidy imports := by
    rw [flatten_callerInterfaceSections]
    split
    · refine List.forall_mem_singleton.mpr ⟨oneLine_clientInterface hs, ?_, nofun⟩
      exact List.forall_mem_map.mpr fun m hm => tidy_callerSpec himports hs (hs.methods m hm)
    · exact nofun
  simp only [declarations_eq, List.forall_mem_append, List.forall_mem_singleton,
    List.forall_mem_flatMap]
  refine ⟨⟨⟨⟨⟨hinterface, ?_⟩, tidy_registerFunc himports hs⟩, hcaller⟩,
    tidy_callerSection himports hs⟩, ?_⟩
  · exact fun m hm => tidy_handleDecls himports hs (hs.methods m hm) .server
  · exact fun m hm => ⟨tidy_callFunc himports hs (hs.methods m hm),
      tidy_handleDecls himports hs (hs.methods m hm) .client⟩

theorem handleSections_ne_nil (s : Service) (m : Method) (side : Side) :
    ∀ group ∈ handleSections s m side, group ≠ [] := by
  unfold handleSections
  split
  · simp
  · exact nofun

/-- No group of declarations is empty. -/
theorem sections_ne_nil (s : Service) : ∀ group ∈ sections s, group ≠ [] := by
  have hclient : ∀ group ∈ callerInterfaceSections s, group ≠ [] := by
    unfold callerInterfaceSections
    split
    · simp
    · exact nofun
  simp only [sections, implementationSections, callerSections, List.forall_mem_append,
    List.forall_mem_singleton, List.forall_mem_flatMap]
  refine ⟨⟨⟨List.cons_ne_nil _ _, fun m _ => handleSections_ne_nil s m .server⟩,
    List.cons_ne_nil _ _⟩, ⟨hclient, List.cons_ne_nil _ _⟩, fun m _ => ?_⟩
  exact ⟨List.cons_ne_nil _ _, handleSections_ne_nil s m .client⟩

/-- A stub starts and ends where no block is open, and with an empty line behind it. -/
theorem laidOut_stubLines (himports : imports.Valid) (hs : PlainNames s) :
    LaidOut ⟨0, false⟩ ((stubLines s).map (Line.shown imports)) ⟨0, false⟩ := by
  show LaidOut ⟨0, false⟩ (((sections s).flatMap Section.lines).map (Line.shown imports)) ⟨0, false⟩
  rw [List.map_flatMap]
  refine .flatMap fun group hgroup => laidOut_section (sections_ne_nil s group hgroup) ?_
  exact fun d hd =>
    tidy_declarations himports hs d (List.mem_flatten.mpr ⟨group, hgroup, hd⟩)

end

/-- What it means for the texts of stubs to be laid out, each with its lines: the text consists of
the lines, which start and end where no block is open, and so does the text that all of them make.
-/
structure Formatted (texts : List String) (stubs : List (List String)) : Prop where
  each : List.Forall₂ (fun text lines => text = textOfLines lines ∧
    LaidOut ⟨0, false⟩ lines ⟨0, false⟩) texts stubs
  text : String.join texts = textOfLines stubs.flatten
  laidOut : LaidOut ⟨0, false⟩ stubs.flatten ⟨0, false⟩

theorem formatted_of_forall₂ {texts : List String} {stubs : List (List String)}
    (h : List.Forall₂ (fun text lines => text = textOfLines lines ∧
      LaidOut ⟨0, false⟩ lines ⟨0, false⟩) texts stubs) : Formatted texts stubs := by
  refine ⟨h, ?_, ?_⟩
  · induction h with
    | nil => rfl
    | cons hfirst _ ih =>
      rw [String.join_cons, List.flatten_cons, textOfLines_append, ih, hfirst.1]
  · induction h with
    | nil => exact .nil
    | cons hfirst _ ih => exact hfirst.2.append ih

/-- **Layout.** Whatever services a new file of whatever package gets stubs for, all lines are
indented by the blocks that are open, as the lines themselves show. -/
theorem generateAll?_formatted (own : Package) {ss : List Service} (h : ∀ s ∈ ss, PlainNames s) :
    ∃ texts after stubs, generateAll? (.ofPackage own) ss = some (texts, after) ∧
      Formatted texts stubs := by
  refine ⟨_, _, ss.map fun s => (stubLines s).map (Line.shown (seriesImports own ss)),
    generateAll?_eq ss _, formatted_of_forall₂ ?_⟩
  rw [List.forall₂_map_left_iff, List.forall₂_map_right_iff, List.forall₂_same]
  intro s hs
  exact ⟨linesText_eq _ _, laidOut_stubLines (valid_seriesImports own ss) (h s hs)⟩

theorem plainNames_mailbox : PlainNames mailbox where
  fullName := by
    have hall : mailbox.fullName.toList.all (fun c => isIdentifierChar c || c = '.') = true := by
      decide
    simpa using hall
  goName := by decide
  methods := by
    simp only [mailbox, List.forall_mem_cons]
    refine ⟨⟨?_, ?_, ?_, .inl ?_⟩, ⟨?_, ?_, ?_, .inl ?_⟩, ⟨?_, ?_, ?_, .inl ?_⟩,
      ⟨?_, ?_, ?_, .inl ?_⟩, nofun⟩ <;> decide

/-- In a file of the package that some messages of the service belong to. -/
theorem generateAll?_formatted_mailbox :
    (∀ s ∈ [mailbox], PlainNames s) ∧ ∃ texts after stubs,
      generateAll? (.ofPackage ⟨"example.com/mail", "mail"⟩) [mailbox] = some (texts, after) ∧
        Formatted texts stubs := by
  have hplain : ∀ s ∈ [mailbox], PlainNames s := List.forall_mem_singleton.mpr plainNames_mailbox
  exact ⟨hplain, generateAll?_formatted ⟨"example.com/mail", "mail"⟩ hplain⟩

end GoStubs.Stub
