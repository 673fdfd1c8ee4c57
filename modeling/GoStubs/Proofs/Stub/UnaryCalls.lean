import GoStubs.Proofs.Go.ExportedName
import GoStubs.Proofs.Rpc.Description
import GoStubs.Proofs.Stub.Registration
/-!
# Which unary calls reach an implementation

A client makes a unary call under the name of the method as it is declared, and an implementation
is registered under Go names. A call made through one stub to another therefore arrives if the
two names are one, which is the case of those names that exporting does not change.

* `Reaches`: the call of a method finds the row that calls the method's implementation.
* `reaches_iff`: exactly the names that are their own Go names do.
* `UnaryCall.standsIn`: where the call and its names stand in the text.
* `emits_unary_calls`: what every unary call asks for, and what answers it.
-/

namespace GoStubs.Stub

open GoStubs.Go GoStubs.Rpc

/-! ## Asking and answering -/

/-- Whether the one call that a function makes is that of a method of a service. -/
def Asks (f : Func) (service method : String) : Prop :=
  f.calls =
    [⟨["c", "client", "Call"],
      [.var "ctx", .literal service, .literal method, .var "req", .address "resp"]⟩]

/-- Whether the map of unary methods has a row for a method, and the row calls the method of the
implementation with the given Go name. -/
def Answers (r : Registration) (method goName : String) : Prop :=
  ∃ row, r.methods.filter (·.key = method) = [row] ∧
    ∃ decoding args, row.handler.calls = decoding ++ [⟨["svc", goName], args⟩]

/-- Whether the client's call of a unary method arrives at the implementation of that method. -/
def Reaches (s : Service) (m : Method) (ds : List Decl) : Prop :=
  ∃ f r service method,
    (methodsOn (callerReceiver s) ds).filter (·.name = m.goName) = [f] ∧ registrations ds = [r] ∧
      Asks f service method ∧ service = r.service ∧ Answers r method m.goName

variable {s : Service} {m : Method}

theorem streams_of_unary (hflow : m.flow = .unary) : m.flow.streams = false := by
  rw [hflow]
  rfl

theorem asks_callFunc (s : Service) (hflow : m.flow = .unary) :
    Asks (callFunc s m) s.fullName m.name := by
  have hbody : (callFunc s m).statements = unaryCall s m := by
    rw [statements_callFunc, callBody, if_neg (by simp [streams_of_unary hflow])]
  rw [Asks, Func.calls, hbody]
  rfl

theorem asks_inj {f : Func} {service service' method method' : String} (h : Asks f service method)
    (h' : Asks f service' method') : service' = service ∧ method' = method := by
  rw [Asks, h] at h'
  simpa [eq_comm] using h'

theorem answers_goName (hnames : (s.methods.map (·.goName)).Nodup) (hm : m ∈ s.methods)
    (hflow : m.flow = .unary) : Answers (registration s) m.goName m.goName := by
  have hkeep : [m].filter (!·.flow.streams) = [m] := by simp [streams_of_unary hflow]
  refine ⟨methodRow m.goName m, ?_, [⟨["unmarshal"], [.address "req"]⟩],
    [.var "ctx", .address "req"], rfl⟩
  rw [methods_filter_key hnames hm, hkeep, List.map_singleton]

/-- A text that is the Go name of no method is the key of no row. -/
theorem handlers_eq_nil {key : String} (h : ∀ m ∈ s.methods, m.goName ≠ key) :
    (registration s).handlers key = [] := by
  have hunary : (registration s).methods.filter (·.key = key) = [] := by
    rw [methods_registration, List.filter_map, List.map_eq_nil_iff, List.filter_eq_nil_iff]
    intro m hm
    simpa [methodRow] using h m (List.mem_of_mem_filter hm)
  have hstreams : (registration s).streams.filter (·.key = key) = [] := by
    rw [streams_registration, List.filter_map, List.map_eq_nil_iff, List.filter_eq_nil_iff]
    intro m hm
    simpa [streamRow, routedStream] using h m (List.mem_of_mem_filter hm)
  rw [Registration.handlers, hunary, hstreams]
  rfl

theorem not_answers_of_handlers_eq_nil {r : Registration} {key goName : String}
    (h : r.handlers key = []) : ¬ Answers r key goName := by
  rintro ⟨row, hrow, -⟩
  rw [Registration.handlers, hrow] at h
  simp at h

/-! ## Names that are their own Go names -/

/-- A declared name is a Go name of the service only if it is its own. -/
theorem goName_ne_of_exportedName_ne (hgo : ∀ m ∈ s.methods, m.goName = exportedName m.name)
    (hvalid : ∀ m ∈ s.methods, isProtoIdentifier m.name = true)
    (hne : exportedName m.name ≠ m.name) : ∀ b ∈ s.methods, b.goName ≠ m.name := by
  intro b hb hname
  -- The key of a row has been exported once already, so it would be its own Go name.
  have hexported : exportedName b.goName = b.goName := by
    rw [hgo b hb]
    exact exportedName_exportedName (head?_ne_dot_of_isProtoIdentifier (hvalid b hb))
  rw [hname] at hexported
  exact hne hexported

theorem answers_name_iff (hnames : (s.methods.map (·.goName)).Nodup)
    (hgo : ∀ m ∈ s.methods, m.goName = exportedName m.name)
    (hvalid : ∀ m ∈ s.methods, isProtoIdentifier m.name = true) (hm : m ∈ s.methods)
    (hflow : m.flow = .unary) :
    Answers (registration s) m.name m.goName ↔ exportedName m.name = m.name := by
  constructor
  · intro hanswers
    by_contra hne
    have hkeys := goName_ne_of_exportedName_ne hgo hvalid hne
    exact not_answers_of_handlers_eq_nil (handlers_eq_nil hkeys) hanswers
  · intro hname
    have hself : m.goName = m.name := (hgo m hm).trans hname
    have hanswers := answers_goName hnames hm hflow
    rwa [hself] at hanswers ⊢

theorem reaches_iff (hnames : (s.methods.map (·.goName)).Nodup)
    (hgo : ∀ m ∈ s.methods, m.goName = exportedName m.name)
    (hvalid : ∀ m ∈ s.methods, isProtoIdentifier m.name = true) (hm : m ∈ s.methods)
    (hflow : m.flow = .unary) :
    Reaches s m (declarations s) ↔ exportedName m.name = m.name := by
  rw [← answers_name_iff hnames hgo hvalid hm hflow]
  have hcall := filter_methodsOn_callerReceiver hnames hm
  have hasks := asks_callFunc s hflow
  constructor
  · rintro ⟨f, r, service, method, hf, hr, hfasks, -, hanswers⟩
    obtain rfl : callFunc s m = f := by simpa [hcall] using hf
    obtain rfl : registration s = r := by simpa [registrations_declarations] using hr
    obtain ⟨-, rfl⟩ := asks_inj hasks hfasks
    exact hanswers
  · intro hanswers
    exact ⟨callFunc s m, registration s, s.fullName, m.name, hcall, registrations_declarations s,
      hasks, rfl, hanswers⟩

/-! ## Unary calls of a stub -/

/-- What a unary call asks for, and what the registration of the same stub answers. -/
structure UnaryCall (s : Service) (m : Method) (ds : List Decl) (f : Func) (r : Registration) :
    Prop where
  call : (methodsOn (callerReceiver s) ds).filter (·.name = m.goName) = [f]
  registration : registrations ds = [r]
  /-- The call names the service and, as it is declared, the method. -/
  asks : Asks f s.fullName m.name
  service : r.service = s.fullName
  /-- The implementation is registered under its Go name. -/
  answered : Answers r m.goName m.goName
  reached : Reaches s m ds ↔ exportedName m.name = m.name
  /-- Nothing else answers a call that does not arrive. -/
  unanswered : exportedName m.name ≠ m.name → r.handlers m.name = []

/-- The call stands in the text with the names that it asks for, and the row of the implementation
with the Go name. -/
theorem UnaryCall.standsIn {imports after : Imports} {text : String} {f : Func} {r : Registration}
    (h : UnaryCall s m (declarations s) f r) (hemits : Emits imports s text after) :
    StandsIn (Call.text ⟨["c", "client", "Call"],
        [.var "ctx", .literal s.fullName, .literal m.name, .var "req", .address "resp"]⟩) text ∧
      StandsIn ("\"" ++ m.goName ++ "\": ") text := by
  have hf : f ∈ methodsOn (callerReceiver s) (declarations s) :=
    List.mem_of_mem_filter (h.call ▸ List.mem_singleton_self f)
  have hr : r ∈ registrations (declarations s) := h.registration ▸ List.mem_singleton_self r
  constructor
  · have hcalls : f.calls = [_] := h.asks
    obtain ⟨words, hwords, hshows⟩ := shows_call (mem_of_mem_methodsWhere hf)
      (hcalls ▸ List.mem_singleton_self _)
    have hline := (standsIn_words after 1 words).trans (hemits.standsIn hshows)
    exact (hwords.standsIn after).trans hline
  · obtain ⟨row, hanswers, -⟩ := h.answered
    obtain ⟨hrow, hkey⟩ := List.mem_filter.mp (hanswers ▸ List.mem_singleton_self row)
    rw [← of_decide_eq_true hkey]
    exact (standsIn_before_funcLit after 3 _ row.handler).trans
      (hemits.standsIn (shows_methodRow hr hrow))

example : Call.text ⟨["c", "client", "Call"],
    [.var "ctx", .literal "tally.Tally", .literal "reset", .var "req", .address "resp"]⟩ =
    "c.client.Call(ctx, \"tally.Tally\", \"reset\", req, &resp)" := by decide

/-- **Unary calls.** Whatever a file imports already, in the stub of a service of a described file
whose methods have distinct Go names each unary call asks for the service that the stub registers
and for the declared name of the method, while its implementation is registered under the Go name;
so the call arrives if and only if the declared name is its own Go name. -/
theorem emits_unary_calls (scope : Scope) (f : Proto.File) (file : File) (s : Service)
    (imports : Imports) (hfile : File.ofProto scope f = .ok file) (hs : s ∈ file.services)
    (hvalid : ∀ m ∈ s.methods, isProtoIdentifier m.name = true)
    (hnames : (s.methods.map (·.goName)).Nodup) :
    ∃ text after, Emits imports s text after ∧
      ∀ m ∈ s.methods, m.flow = .unary → ∃ f r, UnaryCall s m (declarations s) f r := by
  obtain ⟨text, after, hemits⟩ := emits imports s
  have hgo : ∀ m ∈ s.methods, m.goName = exportedName m.name := fun m hm =>
    File.goName_of_ofProto hfile hs hm
  refine ⟨text, after, hemits, ?_⟩
  intro m hm hflow
  refine ⟨callFunc s m, registration s, ?_⟩
  constructor
  · exact filter_methodsOn_callerReceiver hnames hm
  · exact registrations_declarations s
  · exact asks_callFunc s hflow
  · rfl
  · exact answers_goName hnames hm hflow
  · exact reaches_iff hnames hgo hvalid hm hflow
  · intro hne
    exact handlers_eq_nil (goName_ne_of_exportedName_ne hgo hvalid hne)

/-! ## An example -/

/-- The description of a service with a method that is declared in lower case. -/
def tallyProto : Proto.File where
  name? := some "tally.proto"
  package? := some "tally"
  options? := some ⟨some "example.com/tally"⟩
  messages := [⟨some "Vote", []⟩, ⟨some "Total", []⟩]
  services :=
    [⟨some "Tally",
      [⟨some "Count", some ".tally.Vote", some ".tally.Total", none, none⟩,
       ⟨some "reset", some ".tally.Vote", some ".tally.Total", none, none⟩,
       ⟨some "watch", some ".tally.Vote", some ".tally.Total", none, some true⟩]⟩]

/-- What the names in this description refer to. -/
def tallyScope : Scope where
  messages := .ofFiles [tallyProto]
  packages := .ofList [("tally.proto", ⟨"example.com/tally", "tally"⟩)]

/-- The method that is declared in lower case. -/
def reset : Method :=
  ⟨"reset", "Reset", ⟨"example.com/tally", "Vote"⟩, ⟨"example.com/tally", "Total"⟩, false, false⟩

/-- The service that is described. -/
def tally : Service where
  fullName := "tally.Tally"
  goName := "Tally"
  methods :=
    [{ reset with name := "Count", goName := "Count" }, reset,
     { reset with name := "watch", goName := "Watch", serverStreaming := true }]

/-- The file that is described. -/
def tallyFile : File := ⟨"tally.proto", ⟨"example.com/tally", "tally"⟩, [tally]⟩

theorem ofProto_tallyProto : File.ofProto tallyScope tallyProto = .ok tallyFile := by rfl

theorem emits_unary_calls_tally :
    File.ofProto tallyScope tallyProto = .ok tallyFile ∧ tally ∈ tallyFile.services ∧
      (∀ m ∈ tally.methods, isProtoIdentifier m.name = true) ∧
      (tally.methods.map (·.goName)).Nodup ∧
      ∃ text after, Emits mailImports tally text after ∧
        ∀ m ∈ tally.methods, m.flow = .unary → ∃ f r, UnaryCall tally m (declarations tally) f r :=
  ⟨ofProto_tallyProto, by decide, by decide, by decide,
    emits_unary_calls tallyScope tallyProto tallyFile tally mailImports ofProto_tallyProto
      (by decide) (by decide) (by decide)⟩

/-- Not every unary call of a described service arrives: `reset` asks for `reset`, and is registered
as `Reset`. -/
theorem not_forall_reaches :
    ¬ ∀ (scope : Scope) (f : Proto.File) (file : File) (s : Service) (imports : Imports),
      File.ofProto scope f = .ok file → s ∈ file.services →
      (∀ p ∈ f.services, isProtoIdentifier p.name = true ∧
        ∀ q ∈ p.methods, isProtoIdentifier q.name = true) →
      (s.methods.map (·.goName)).Nodup →
      ∃ text after, Emits imports s text after ∧
        ∀ m ∈ s.methods, m.flow = .unary → Reaches s m (declarations s) := by
  intro h
  obtain ⟨-, -, -, hreaches⟩ := h tallyScope tallyProto tallyFile tally mailImports
    ofProto_tallyProto (by decide) (by decide) (by decide)
  have hgo : ∀ m ∈ tally.methods, m.goName = exportedName m.name := by decide
  have hname : exportedName reset.name = reset.name :=
    (reaches_iff (by decide) hgo (by decide) (by decide) (by decide)).mp
      (hreaches reset (by decide) (by decide))
  exact absurd hname (by decide)

end GoStubs.Stub
