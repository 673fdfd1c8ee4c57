import GoStubs.Proofs.Go.ExportedName
import GoStubs.Proofs.Go.Scope
import GoStubs.Proofs.Stub.Registration
import GoStubs.Proofs.Stub.Series
/-!
# Local names and aliases in stubs

The bodies of a stub have parameters and variables with fixed names, and the alias of a message's
package is chosen without a look at them. So a body can name a message of a package whose alias is a
local name there, and then the name means the variable. The places where that happens are few:
a body names its message before it has declared a variable, when only parameters and receivers are
in scope.

* `messageMentions`: where the bodies for a method name its messages, and under which names.
* `generateAll?_hygienic_iff`: a file is free of hidden aliases exactly if none is hidden there.
* `hygienic_of_suggestedName_not_mem`: which import paths never lead to one.
-/

namespace GoStubs.Stub

open GoStubs.Go GoStubs.Rpc

/-! ## What bodies mention -/

/-- The messages that the bodies for a method name, each with the local names in scope there. -/
def messageMentions (m : Method) : List Mention :=
  match m.flow with
  | .unary => [⟨["srv", "svc", "ctx", "unmarshal"], m.input⟩, ⟨["c", "ctx", "req"], m.output⟩]
  | .serverStreaming => [⟨["srv", "svc", "ctx", "stream"], m.input⟩, ⟨["x"], m.output⟩]
  | .clientStreaming | .bidirectional => [⟨["x"], m.input⟩, ⟨["x"], m.output⟩]

/-- The mentions in the operations of a handle: a message is named where it is received. -/
def operationMentions (m : Method) (side : Side) : List Mention :=
  ((m.flow.operations side).filter (· ≠ .send)).map fun op => ⟨["x"], operationMessage m side op⟩

/-- The mention in the row of a method, if it names the request. -/
def handlerMentions (m : Method) : List Mention :=
  match m.flow with
  | .unary => [⟨["srv", "svc", "ctx", "unmarshal"], m.input⟩]
  | .serverStreaming => [⟨["srv", "svc", "ctx", "stream"], m.input⟩]
  | .clientStreaming | .bidirectional => []

/-- The mention in a call, if it names the response. -/
def callMentions (m : Method) : List Mention :=
  if m.flow.streams then [] else [⟨["c", "ctx", "req"], m.output⟩]

variable {imports : Imports} {s : Service} {m : Method}

theorem visible_messageMentions_iff :
    Visible imports (messageMentions m) ↔
      Visible imports (operationMentions m .server) ∧ Visible imports (handlerMentions m) ∧
        Visible imports (callMentions m) ∧ Visible imports (operationMentions m .client) := by
  unfold messageMentions operationMentions handlerMentions callMentions Visible
  cases m.flow <;>
    simp [Flow.operations, Flow.streams, Flow.streamsRequests, Flow.streamsResponses,
      operationMessage]

/-! ## Mentions of the runtime -/

/-- Whether the runtime's packages have no alias but their own names. -/
def RuntimeAliases (imports : Imports) : Prop :=
  ∀ p ∈ runtimePaths, ∀ a, imports.aliasOf? p = some a → a = "context" ∨ a = "ttrpc"

/-- No local name of a stub is one of these. -/
theorem visible_runtime (h : RuntimeAliases imports) {scope : List String} {is : List Ident}
    (hscope : "context" ∉ scope ∧ "ttrpc" ∉ scope) (his : ∀ i ∈ is, i.importPath ∈ runtimePaths) :
    Visible imports (mentionsUnder scope is) := by
  intro x hx
  obtain ⟨i, hi, rfl⟩ := List.mem_map.mp hx
  rintro ⟨a, ha, hspell⟩
  rcases h _ (his i hi) a (Imports.spell_eq_qualified_iff.mp hspell) with rfl | rfl
  · exact hscope.1 ha
  · exact hscope.2 ha

/-! ## Declaration by declaration -/

theorem mentions_operationFunc (s : Service) (m : Method) (side : Side) (op : Operation) :
    (Decl.func (operationFunc s m side op)).mentions =
      if op = .send then [] else [⟨["x"], operationMessage m side op⟩] := by
  cases op <;> rfl

theorem hygienic_handleDecls_iff (s : Service) (m : Method) (side : Side) :
    (∀ d ∈ handleDecls s m side, d.Hygienic imports) ↔
      Visible imports (operationMentions m side) := by
  have hoperations : (∀ op ∈ m.flow.operations side,
      (Decl.func (operationFunc s m side op)).Hygienic imports) ↔
        Visible imports (operationMentions m side) := by
    simp only [operationMentions, Decl.Hygienic, mentions_operationFunc, Visible]
    constructor
    · intro h x hx
      obtain ⟨op, hop, rfl⟩ := List.mem_map.mp hx
      obtain ⟨hop, hsend⟩ := List.mem_filter.mp hop
      exact h op hop _ (by simp [of_decide_eq_true hsend])
    · intro h op hop x hx
      split at hx
      · cases hx
      · next hsend =>
        rw [List.mem_singleton.mp hx]
        exact h _ (List.mem_map_of_mem (List.mem_filter.mpr ⟨hop, by simpa using hsend⟩))
  rw [← hoperations]
  unfold handleDecls
  cases hs : m.flow.streams with
  | false => simp [operations_eq_nil hs]
  | true =>
    -- Neither the interface nor the structure of a handle has a body.
    have hinterface : (handleInterface s m side).Hygienic imports := visible_nil imports
    have hstruct : (handleStruct s m side).Hygienic imports := visible_nil imports
    simp [hinterface, hstruct]

theorem hygienic_callFunc_iff (h : RuntimeAliases imports) (s : Service) (m : Method) :
    (Decl.func (callFunc s m)).Hygienic imports ↔ Visible imports (callMentions m) := by
  have hbody : (Decl.func (callFunc s m)).mentions =
      stmtMentions (callFunc s m).locals (callBody s m) := rfl
  rw [Decl.Hygienic, hbody, callBody, callMentions]
  cases hs : m.flow.streams with
  | false =>
    have hreq : m.flow.streamsRequests = false := by
      rw [Flow.streams, Bool.or_eq_false_iff] at hs
      exact hs.1
    simp [Func.locals, callFunc, hreq, callerReceiver, unaryCall, stmtMentions, mentionsUnder,
      Stmt.idents, Ty.idents]
  | true =>
    have hlocals : "context" ∉ (callFunc s m).locals ∧ "ttrpc" ∉ (callFunc s m).locals := by
      cases hreq : m.flow.streamsRequests <;>
        simp [Func.locals, callFunc, callerReceiver, hreq]
    have hdesc : Visible imports (mentionsUnder (callFunc s m).locals [streamDescIdent]) :=
      visible_runtime h hlocals (by decide)
    exact iff_of_true hdesc (visible_nil imports)

/-- The row of a unary method names its request below the parameters of its handler. -/
theorem visible_methodRow_iff (h : RuntimeAliases imports) (m : Method) (hflow : m.flow = .unary) :
    Visible imports ((methodRow m.goName m).handler.mentions ["srv", "svc"]) ↔
      Visible imports (handlerMentions m) := by
  have hparams : Visible imports (mentionsUnder ["srv", "svc"] [contextIdent]) :=
    visible_runtime h (by decide) (by decide)
  have hmentions : (methodRow m.goName m).handler.mentions ["srv", "svc"] =
      mentionsUnder ["srv", "svc"] [contextIdent] ++
        [⟨["srv", "svc", "ctx", "unmarshal"], m.input⟩] := rfl
  rw [hmentions, visible_append, handlerMentions, hflow]
  exact and_iff_right hparams

/-- The row of a streaming method does so only where it receives the request itself. -/
theorem visible_streamRow_iff (h : RuntimeAliases imports) (s : Service) (m : Method)
    (hflow : m.flow ≠ .unary) :
    Visible imports ((streamRow s (routedStream m)).handler.mentions ["srv", "svc"]) ↔
      Visible imports (handlerMentions m) := by
  have hparams :
      Visible imports (mentionsUnder ["srv", "svc"] [contextIdent, streamServerIdent]) :=
    visible_runtime h (by decide) (by decide)
  have hmentions : (streamRow s (routedStream m)).handler.mentions ["srv", "svc"] =
      mentionsUnder ["srv", "svc"] [contextIdent, streamServerIdent] ++ handlerMentions m := by
    unfold handlerMentions routedStream
    cases hm : m.flow with
    | unary => exact absurd hm hflow
    | _ => rfl
  rw [hmentions, visible_append]
  exact and_iff_right hparams

theorem hygienic_registerFunc_iff (h : RuntimeAliases imports) (s : Service) :
    (Decl.func (registerFunc s)).Hygienic imports ↔
      ∀ m ∈ s.methods, Visible imports (handlerMentions m) := by
  have hruntime : ∀ {i : Ident}, i.importPath ∈ runtimePaths →
      Visible imports (mentionsUnder ["srv", "svc"] [i]) := fun hi =>
    visible_runtime h (by decide) (by simpa using hi)
  have hdescriptor : Visible imports
      (mentionsUnder ["srv", "svc"] (registration s).descriptor.idents) :=
    hruntime (i := serviceDescIdent) (by decide)
  have hbody : (Decl.func (registerFunc s)).mentions =
      (registration s).mentions ["srv", "svc"] := rfl
  rw [Decl.Hygienic, hbody, Registration.mentions, visible_append, visible_append,
    visible_mapMentions_iff (hruntime (i := methodIdent) (by decide)),
    visible_mapMentions_iff (hruntime (i := streamIdent) (by decide)),
    and_iff_right hdescriptor, methods_registration, streams_registration]
  simp only [List.forall_mem_map, List.mem_filter, streams_eq_decide]
  constructor
  · rintro ⟨hunary, hstreaming⟩ m hm
    by_cases hflow : m.flow = .unary
    · exact (visible_methodRow_iff h m hflow).mp (hunary m ⟨hm, by simp [hflow]⟩)
    · exact (visible_streamRow_iff h s m hflow).mp (hstreaming m ⟨hm, by simp [hflow]⟩)
  · intro hall
    constructor
    · rintro m ⟨hm, hflow⟩
      exact (visible_methodRow_iff h m (by simpa using hflow)).mpr (hall m hm)
    · rintro m ⟨hm, hflow⟩
      exact (visible_streamRow_iff h s m (by simpa using hflow)).mpr (hall m hm)

/-! ## Stub by stub -/

/-- A stub is as hygienic as the mentions of messages in its bodies are. -/
theorem hygienic_declarations_iff (h : RuntimeAliases imports) (s : Service) :
    (∀ d ∈ declarations s, d.Hygienic imports) ↔
      ∀ m ∈ s.methods, Visible imports (messageMentions m) := by
  have hinterface : (implementationInterface s).Hygienic imports := visible_nil imports
  have hclient : ∀ d ∈ (callerInterfaceSections s).flatten, d.Hygienic imports := by
    rw [flatten_callerInterfaceSections]
    split
    · simp [Decl.Hygienic, Decl.mentions, visible_nil]
    · exact nofun
  have hcaller : ∀ d ∈ callerSection s, d.Hygienic imports := by
    simp [callerSection, constructorFunc, Decl.Hygienic, Decl.mentions, Body.mentions,
      stmtMentions, mentionsUnder, Stmt.idents, visible_nil]
  simp only [declarations_eq, List.forall_mem_append, List.forall_mem_singleton,
    List.forall_mem_flatMap, hygienic_handleDecls_iff, hygienic_registerFunc_iff h,
    hygienic_callFunc_iff h, visible_messageMentions_iff]
  constructor
  · rintro ⟨⟨⟨⟨⟨-, hserver⟩, hregister⟩, -⟩, -⟩, hcalls⟩ m hm
    exact ⟨hserver m hm, hregister m hm, hcalls m hm⟩
  · intro hall
    exact ⟨⟨⟨⟨⟨hinterface, fun m hm => (hall m hm).1⟩, fun m hm => (hall m hm).2.1⟩, hclient⟩,
      hcaller⟩, fun m hm => (hall m hm).2.2⟩

/-! ## Series of stubs -/

/-- The local names under which messages are named. -/
def localNames : List String := ["srv", "svc", "ctx", "unmarshal", "stream", "c", "req", "x"]

theorem scope_subset_localNames {x : Mention} (hx : x ∈ messageMentions m) :
    x.scope ⊆ localNames ∧ (x.ident = m.input ∨ x.ident = m.output) := by
  unfold messageMentions at hx
  split at hx <;> rcases List.mem_pair.mp hx with rfl | rfl <;>
    simp [localNames]

theorem runtimeAliases (own : Package) (ss : List Service) :
    RuntimeAliases (seriesImports own ss) := fun _ hp _ ha => aliasOf?_runtimePaths hp ha

/-- A package whose suggested name is no local name is never hidden, whatever else is imported. -/
theorem hygienic_of_suggestedName_not_mem {own : Package} {ss : List Service}
    (h : ∀ s ∈ ss, ∀ m ∈ s.methods, suggestedName m.input.importPath ∉ localNames ∧
      suggestedName m.output.importPath ∉ localNames) :
    ∀ s ∈ ss, ∀ d ∈ declarations s, d.Hygienic (seriesImports own ss) := by
  have hdigit : ∀ a ∈ localNames, a.toList.any Char.isDigit = false := by decide
  intro s hs
  refine (hygienic_declarations_iff (runtimeAliases own ss) s).mpr fun m hm x hx => ?_
  rintro ⟨a, ha, hspell⟩
  obtain ⟨hscope, hident⟩ := scope_subset_localNames hx
  obtain ⟨n, hn⟩ :=
    (valid_seriesImports own ss).exists_numbered (Imports.spell_eq_qualified_iff.mp hspell)
  -- The local names end in no digit, so the alias is the suggested name itself.
  have hsuggested := Imports.eq_of_numbered_eq hn.symm (hdigit a (hscope ha))
  obtain ⟨hinput, houtput⟩ := h s hs m hm
  rcases hident with hident | hident
  · exact hinput (hident ▸ hsuggested ▸ hscope ha)
  · exact houtput (hident ▸ hsuggested ▸ hscope ha)

/-- **Local names and aliases.** Whatever services a new file of whatever package gets stubs for, no
local name hides an alias in them if and only if no message of theirs belongs to a package whose
alias is a local name where a body names the message. -/
theorem generateAll?_hygienic_iff (own : Package) (ss : List Service) :
    ∃ texts after, generateAll? (.ofPackage own) ss = some (texts, after) ∧
      texts = ss.map (fun s => linesText after (stubLines s)) ∧
      (∀ s ∈ ss, ∀ d ∈ declarations s, d.lines <:+: stubLines s) ∧
      ((∀ s ∈ ss, ∀ d ∈ declarations s, d.Hygienic after) ↔
        ∀ s ∈ ss, ∀ m ∈ s.methods, ∀ x ∈ messageMentions m, ∀ a ∈ x.scope,
          after.aliasOf? x.ident.importPath ≠ some a) := by
  refine ⟨_, seriesImports own ss, generateAll?_eq ss _, rfl,
    fun s _ d hd => lines_infix_stubLines hd, ?_⟩
  have hvisible : ∀ m : Method, ∀ imports, Visible imports (messageMentions m) ↔
      ∀ x ∈ messageMentions m, ∀ a ∈ x.scope,
        imports.aliasOf? x.ident.importPath ≠ some a := fun m imports => by
    simp only [Visible, Mention.Hidden, Imports.spell_eq_qualified_iff, not_exists, not_and, ne_eq]
  simp only [hygienic_declarations_iff (runtimeAliases own ss), hvisible]

/-- The local names do hide packages: a client writes `req.Receipt` below its parameter `req`. -/
def courier : Service where
  fullName := "courier.Courier"
  goName := "Courier"
  methods :=
    [⟨"Send", "Send", ⟨"example.com/api/req", "Parcel"⟩, ⟨"example.com/api/req", "Receipt"⟩,
      false, false⟩]

theorem not_forall_hygienic :
    ¬ ∀ (own : Package) (ss : List Service),
      (∀ s ∈ ss, isProtoIdentifier s.goName = true ∧ ∀ m ∈ s.methods,
        isProtoIdentifier m.name = true ∧ m.goName = exportedName m.name) →
      ∃ texts after, generateAll? (.ofPackage own) ss = some (texts, after) ∧
        ∀ s ∈ ss, ∀ d ∈ declarations s, d.Hygienic after := by
  intro h
  let own : Package := ⟨"example.com/svc", "svc"⟩
  obtain ⟨texts, after, hgenerated, hhygienic⟩ := h own [courier] (by decide)
  obtain ⟨rfl, rfl⟩ : _ ∧ seriesImports own [courier] = after :=
    Prod.mk.inj (Option.some.inj ((generateAll?_eq _ _).symm.trans hgenerated))
  have hvisible := (hygienic_declarations_iff (runtimeAliases own [courier]) courier).mp
    (hhygienic courier (List.mem_singleton_self _)) _ (List.mem_singleton_self _)
  have halias : (seriesImports own [courier]).aliasOf? "example.com/api/req" = some "req" := by
    decide +kernel
  exact hvisible ⟨["c", "ctx", "req"], ⟨"example.com/api/req", "Receipt"⟩⟩ (by decide)
    ⟨"req", by decide, Imports.spell_of_aliasOf? halias⟩

end GoStubs.Stub
