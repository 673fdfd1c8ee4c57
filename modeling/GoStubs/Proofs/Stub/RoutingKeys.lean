import GoStubs.Proofs.Go.Respelling
import GoStubs.Proofs.Rpc.Description
import GoStubs.Proofs.Stub.Registration
/-!
# The keys of a registration

Calls are routed by the Go names of methods, while a description only has to keep the names apart
that it declares. The keys of the two maps are therefore distinct if no two declared names are
spellings of one Go name, and only then: a service may well declare both `say_hello` and `SayHello`,
which leaves two rows with one key.

* `RoutesUnder`: under which keys the methods of a description are registered.
* `emits_routing_keys`: when these keys are distinct.
-/

namespace GoStubs.Stub

open GoStubs.Go GoStubs.Rpc

variable {p : Proto.Service} {s : Service}

theorem keys_routing (s : Service) : (routing s).keys = s.methods.map (·.goName) := by
  rw [routing, Routing.keys_ofMethods, List.map_map]
  rfl

theorem goNames_of_describes {means : String → Ident → Prop} {qs : List Proto.Method}
    {ms : List Method} (h : List.Forall₂ (DescribesMethod means) qs ms) :
    ms.map (·.goName) = qs.map fun q => exportedName q.name := by
  induction h with
  | nil => rfl
  | cons hm _ ih => rw [List.map_cons, List.map_cons, hm.goName, ih]

/-- A description fixes the keys: they are the exported names of its methods. -/
theorem keys_routing_of_describes {means : String → Ident → Prop} {package : String}
    (h : DescribesService means package p s) :
    (routing s).keys = p.methods.map fun q => exportedName q.name := by
  rw [keys_routing, goNames_of_describes h.methods]

theorem nodup_exportedNames_iff {qs : List Proto.Method}
    (hvalid : ∀ q ∈ qs, isProtoIdentifier q.name = true) :
    (qs.map fun q => exportedName q.name).Nodup ↔
      qs.Pairwise fun q q' => ¬ Alike q.name q'.name := by
  have hdot : ∀ q ∈ qs, '.' ∉ q.name.toList := fun q hq =>
    dot_not_mem_of_isProtoIdentifier (hvalid q hq)
  rw [List.Nodup, List.pairwise_map]
  refine List.Pairwise.iff_of_mem fun hq hq' => not_congr ?_
  exact exportedName_eq_iff (hdot _ hq) (hdot _ hq')

/-! ## Keys of a stub -/

/-- Under which keys the registration of a service has rows for the methods of its description. -/
structure RoutesUnder (p : Proto.Service) (s : Service) (ds : List Decl) (r : Registration) :
    Prop where
  registration : registrations ds = [r]
  /-- The key of a method is its exported name. -/
  keys : (routing s).keys = p.methods.map fun q => exportedName q.name
  /-- Each method has one row, in one of the two maps. -/
  rows : (r.methods.map (·.key) ++ r.streams.map (·.key)).Perm (routing s).keys
  distinct : (routing s).keys.Nodup ↔ p.methods.Pairwise fun q q' => ¬ Alike q.name q'.name
  /-- Where names are alike, a key stands twice in one map, or once in both. -/
  maps : ((r.methods.map (·.key)).Nodup ∧ (r.streams.map (·.key)).Nodup ∧
      (r.methods.map (·.key)).Disjoint (r.streams.map (·.key))) ↔
    p.methods.Pairwise fun q q' => ¬ Alike q.name q'.name

theorem perm_keys_registration (s : Service) :
    ((registration s).methods.map (·.key) ++ (registration s).streams.map (·.key)).Perm
      (routing s).keys := by
  have hmethods : (registration s).methods.map (·.key) = (routing s).unary.map Prod.fst := by
    rw [registration, List.map_map]
    rfl
  have hstreams : (registration s).streams.map (·.key) = (routing s).streaming.map (·.key) := by
    rw [registration, List.map_map]
    rfl
  rw [hmethods, hstreams]
  exact (routing s).perm_keys

theorem routesUnder {means : String → Ident → Prop} {package : String}
    (h : DescribesService means package p s)
    (hvalid : ∀ q ∈ p.methods, isProtoIdentifier q.name = true) :
    RoutesUnder p s (declarations s) (registration s) := by
  have hkeys := keys_routing_of_describes h
  have hrows := perm_keys_registration s
  have hdistinct : (routing s).keys.Nodup ↔
      p.methods.Pairwise fun q q' => ¬ Alike q.name q'.name := by
    rw [hkeys, nodup_exportedNames_iff hvalid]
  refine ⟨registrations_declarations s, hkeys, hrows, hdistinct, ?_⟩
  rw [← hdistinct, ← hrows.nodup_iff, List.nodup_append']

/-- **Routing keys.** In the stub of a described service whose methods have valid names, each method
is registered under its exported name, and no two of them under one key if and only if no two
declared names are alike. -/
theorem emits_routing_keys (scope : Scope) (f : Proto.File) (file : File) (p : Proto.Service)
    (s : Service) (imports : Imports) (hfile : File.ofProto scope f = .ok file)
    (hs : (p, s) ∈ f.services.zip file.services)
    (hvalid : ∀ q ∈ p.methods, isProtoIdentifier q.name = true) :
    ∃ text after, Emits imports s text after ∧ ∃ r, RoutesUnder p s (declarations s) r := by
  obtain ⟨text, after, hemits⟩ := emits imports s
  obtain ⟨_, _, hdescribes⟩ := File.ofProto_eq_ok_iff.mp hfile
  have hservice := (List.forall₂_iff_zip.mp hdescribes.services).2 hs
  exact ⟨text, after, hemits, registration s, routesUnder hservice hvalid⟩

/-! ## An example -/

/-- The description of a service that declares two spellings of one Go name. -/
def greeterProto : Proto.Service where
  name? := some "Greeter"
  methods :=
    [⟨some "say_hello", some ".greet.Person", some ".greet.Person", none, none⟩,
     ⟨some "SayHello", some ".greet.Person", some ".greet.Person", none, none⟩,
     ⟨some "wave", some ".greet.Person", some ".greet.Person", some true, none⟩]

/-- A description of a file with this service. -/
def greetProto : Proto.File where
  name? := some "greet.proto"
  package? := some "greet"
  options? := some ⟨some "example.com/greet"⟩
  messages := [⟨some "Person", []⟩]
  services := [greeterProto]

/-- What the names in this description refer to. -/
def greetScope : Scope where
  messages := .ofFiles [greetProto]
  packages := .ofList [("greet.proto", ⟨"example.com/greet", "greet"⟩)]

/-- The message that all methods mention. -/
def person : Ident := ⟨"example.com/greet", "Person"⟩

/-- The service that is described. -/
def greeter : Service where
  fullName := "greet.Greeter"
  goName := "Greeter"
  methods :=
    [⟨"say_hello", "SayHello", person, person, false, false⟩,
     ⟨"SayHello", "SayHello", person, person, false, false⟩,
     ⟨"wave", "Wave", person, person, true, false⟩]

/-- The file that is described. -/
def greetFile : File := ⟨"greet.proto", ⟨"example.com/greet", "greet"⟩, [greeter]⟩

theorem ofProto_greetProto : File.ofProto greetScope greetProto = .ok greetFile := by rfl

theorem mem_zip_greet : (greeterProto, greeter) ∈ greetProto.services.zip greetFile.services :=
  List.mem_singleton.mpr rfl

theorem emits_routing_keys_greeter :
    File.ofProto greetScope greetProto = .ok greetFile ∧
      (greeterProto, greeter) ∈ greetProto.services.zip greetFile.services ∧
      (∀ q ∈ greeterProto.methods, isProtoIdentifier q.name = true) ∧
      ∃ text after, Emits (.ofPackage greetFile.package) greeter text after ∧
        ∃ r, RoutesUnder greeterProto greeter (declarations greeter) r :=
  ⟨ofProto_greetProto, mem_zip_greet, by decide,
    emits_routing_keys greetScope greetProto greetFile greeterProto greeter _ ofProto_greetProto
      mem_zip_greet (by decide)⟩

/-- Distinct names do not make distinct keys. -/
theorem not_forall_routing_keys_nodup :
    ¬ ∀ (scope : Scope) (f : Proto.File) (file : File) (p : Proto.Service) (s : Service),
      File.ofProto scope f = .ok file → (p, s) ∈ f.services.zip file.services →
      (∀ q ∈ p.methods, isProtoIdentifier q.name = true) → (p.methods.map (·.name)).Nodup →
      (routing s).keys.Nodup := by
  intro h
  have hkeys := h greetScope greetProto greetFile greeterProto greeter ofProto_greetProto
    mem_zip_greet (by decide) (by decide)
  exact absurd hkeys (by decide)

end GoStubs.Stub
