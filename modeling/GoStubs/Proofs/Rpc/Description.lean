import GoStubs.Proofs.Failure
import GoStubs.Rpc.Resolve
/-!
# Models and what they are models of

A file has a model exactly if it has a Go package and every message that its methods mention can be
resolved. The model is then the one that follows the description part by part; otherwise the
error is that of the first mention that fails, in the order of services, methods, request and
response.

* `DescribesFile`: the model that a description calls for, given what the mentioned names mean.
* `Proto.File.mentions`: the mentions of messages in a file, in their order.
* `File.ofProto_eq_ok_iff`, `File.ofProto_eq_error_iff`: both outcomes of resolving a file.
-/

namespace GoStubs

/-! ## Mentions -/

/-- A message as a method mentions it. -/
structure MessageMention where
  /-- The full name of the method. -/
  method : String
  typeName : String
  deriving DecidableEq, Repr

namespace Proto

/-- The messages that a method of the named service mentions: its request and its response. -/
def Method.mentions (service : String) (m : Method) : List MessageMention :=
  [⟨service ++ "." ++ m.name, m.input⟩, ⟨service ++ "." ++ m.name, m.output⟩]

/-- The messages that the methods of a service in the given package mention. -/
def Service.mentions (package : String) (s : Service) : List MessageMention :=
  s.methods.flatMap (·.mentions (Rpc.serviceFullName package s.name))

/-- The messages that the methods of a file mention. -/
def File.mentions (f : File) : List MessageMention := f.services.flatMap (·.mentions f.package)

end Proto

namespace Rpc

/-! ## Models -/

/-- Whether a method is the model of a description, where `means` says which Go types the mentioned
names stand for. -/
structure DescribesMethod (means : String → Go.Ident → Prop) (q : Proto.Method) (m : Method) :
    Prop where
  name : m.name = q.name
  goName : m.goName = Go.exportedName q.name
  input : means q.input m.input
  output : means q.output m.output
  clientStreaming : m.clientStreaming = q.clientStreaming
  serverStreaming : m.serverStreaming = q.serverStreaming

/-- Whether a service is the model of a description in the given package: its methods are those of
the description, one for one and in their order. -/
structure DescribesService (means : String → Go.Ident → Prop) (package : String)
    (p : Proto.Service) (s : Service) : Prop where
  fullName : s.fullName = serviceFullName package p.name
  goName : s.goName = Go.exportedName p.name
  methods : List.Forall₂ (DescribesMethod means) p.methods s.methods

/-- Whether a file is the model of a description with the given Go package. -/
structure DescribesFile (means : String → Go.Ident → Prop) (package : Go.Package) (f : Proto.File)
    (file : File) : Prop where
  protoPath : file.protoPath = f.name
  package : file.package = package
  services : List.Forall₂ (DescribesService means f.package) f.services file.services

namespace Scope

variable {scope : Scope} {method typeName file : String} {ident : Go.Ident} {e : Error}

/-- Whether a full name is that of a message and the file that declares it has a Go package, which
makes it the name of a Go type. -/
def Means (scope : Scope) (typeName : String) (ident : Go.Ident) : Prop :=
  ∃ message package, scope.messages.find? typeName = some message ∧
    scope.packages.find? message.file = some package ∧
    ident = ⟨package.importPath, message.goName⟩

/-- Why a mention cannot be resolved. -/
inductive Misses (scope : Scope) (mention : MessageMention) : Error → Prop where
  /-- No file declares the message. -/
  | message (h : scope.messages.find? mention.typeName = none) :
      Misses scope mention (.undeclaredMessage mention.method mention.typeName)
  /-- The file that declares the message has no Go package. -/
  | package {message : DeclaredMessage}
      (hmessage : scope.messages.find? mention.typeName = some message)
      (h : scope.packages.find? message.file = none) :
      Misses scope mention (.noGoPackage message.file)

theorem packageOf_eq_ok_iff {package : Go.Package} :
    scope.packageOf file = .ok package ↔ scope.packages.find? file = some package := by
  unfold packageOf
  cases scope.packages.find? file <;> simp

theorem packageOf_eq_error_iff :
    scope.packageOf file = .error e ↔
      scope.packages.find? file = none ∧ e = .noGoPackage file := by
  unfold packageOf
  cases scope.packages.find? file <;> simp [eq_comm]

theorem identOf_eq_ok_iff :
    scope.identOf method typeName = .ok ident ↔ scope.Means typeName ident := by
  unfold identOf Means
  cases scope.messages.find? typeName with
  | none => simp
  | some message =>
    simp only [bind_eq_ok_iff, packageOf_eq_ok_iff, pure_eq_ok_iff, Option.some.injEq]
    constructor
    · rintro ⟨package, hpackage, rfl⟩
      exact ⟨message, package, rfl, hpackage, rfl⟩
    · rintro ⟨_, package, rfl, hpackage, rfl⟩
      exact ⟨package, hpackage, rfl⟩

theorem identOf_eq_error_iff :
    scope.identOf method typeName = .error e ↔ scope.Misses ⟨method, typeName⟩ e := by
  unfold identOf
  cases hmessage : scope.messages.find? typeName with
  | none =>
    constructor
    · rintro ⟨⟩
      exact .message hmessage
    · rintro (h | ⟨h, -⟩)
      · rfl
      · simp [hmessage] at h
  | some message =>
    cases hpackage : scope.packages.find? message.file with
    | none =>
      have hfails := packageOf_eq_error_iff.mpr ⟨hpackage, rfl⟩
      simp only [hfails]
      constructor
      · rintro ⟨⟩
        exact .package hmessage hpackage
      · rintro (h | ⟨h, -⟩)
        · simp [hmessage] at h
        · obtain rfl : message = _ := Option.some.inj (hmessage.symm.trans h)
          rfl
    | some package =>
      have hfound := packageOf_eq_ok_iff.mpr hpackage
      simp only [hfound]
      constructor
      · rintro ⟨⟩
      · rintro (h | ⟨h, hnone⟩)
        · simp [hmessage] at h
        · obtain rfl : message = _ := Option.some.inj (hmessage.symm.trans h)
          simp [hpackage] at hnone

/-- Why a mention cannot be resolved, if that is so. -/
def missing? (scope : Scope) (mention : MessageMention) : Option Error :=
  failure? (scope.identOf mention.method mention.typeName)

theorem missing?_eq_some_iff {mention : MessageMention} :
    scope.missing? mention = some e ↔ scope.Misses mention e := by
  rw [missing?, failure?_eq_some_iff, identOf_eq_error_iff]

theorem missing?_eq_none_iff {mention : MessageMention} :
    scope.missing? mention = none ↔ ∃ ident, scope.Means mention.typeName ident := by
  simp only [missing?, failure?_eq_none_iff, identOf_eq_ok_iff]

end Scope

/-! ## Success -/

section

variable {scope : Scope} {service package : String}

theorem Method.ofProto_eq_ok_iff {q : Proto.Method} {m : Method} :
    Method.ofProto scope service q = .ok m ↔ DescribesMethod scope.Means q m := by
  unfold Method.ofProto
  simp only [bind_eq_ok_iff, pure_eq_ok_iff, Scope.identOf_eq_ok_iff]
  constructor
  · rintro ⟨input, hinput, output, houtput, rfl⟩
    exact ⟨rfl, rfl, hinput, houtput, rfl, rfl⟩
  · rintro ⟨hname, hgoName, hinput, houtput, hclient, hserver⟩
    refine ⟨m.input, hinput, m.output, houtput, ?_⟩
    rw [← hgoName, ← hname, ← hclient, ← hserver]

theorem Service.ofProto_eq_ok_iff {p : Proto.Service} {s : Service} :
    Service.ofProto scope package p = .ok s ↔ DescribesService scope.Means package p s := by
  unfold Service.ofProto
  simp only [bind_eq_ok_iff, pure_eq_ok_iff, mapM_eq_ok_iff, Method.ofProto_eq_ok_iff]
  constructor
  · rintro ⟨methods, hmethods, rfl⟩
    exact ⟨rfl, rfl, hmethods⟩
  · rintro ⟨hfullName, hgoName, hmethods⟩
    refine ⟨s.methods, hmethods, ?_⟩
    rw [← hfullName, ← hgoName]

/-- A file has the model that its description calls for, if its package and all mentions can be
resolved. -/
theorem File.ofProto_eq_ok_iff {f : Proto.File} {file : File} :
    File.ofProto scope f = .ok file ↔ ∃ package, scope.packages.find? f.name = some package ∧
      DescribesFile scope.Means package f file := by
  unfold File.ofProto
  simp only [bind_eq_ok_iff, pure_eq_ok_iff, mapM_eq_ok_iff, Service.ofProto_eq_ok_iff,
    Scope.packageOf_eq_ok_iff]
  refine exists_congr fun package => and_congr_right fun _ => ?_
  constructor
  · rintro ⟨services, hservices, rfl⟩
    exact ⟨rfl, rfl, hservices⟩
  · rintro ⟨hprotoPath, rfl, hservices⟩
    refine ⟨file.services, hservices, ?_⟩
    rw [← hprotoPath]

/-! ## What models keep -/

/-- Each service of a model is the model of one that is described. -/
theorem File.exists_describes_of_ofProto {f : Proto.File} {file : File}
    (h : File.ofProto scope f = .ok file) {s : Service} (hs : s ∈ file.services) :
    ∃ p ∈ f.services, DescribesService scope.Means f.package p s := by
  obtain ⟨_, -, hdescribes⟩ := File.ofProto_eq_ok_iff.mp h
  exact exists_of_mem_forall₂ hdescribes.services hs

/-- A method goes by the exported form of its name. -/
theorem File.goName_of_ofProto {f : Proto.File} {file : File}
    (h : File.ofProto scope f = .ok file) {s : Service} (hs : s ∈ file.services) {m : Method}
    (hm : m ∈ s.methods) : m.goName = Go.exportedName m.name := by
  obtain ⟨_, -, hservice⟩ := File.exists_describes_of_ofProto h hs
  obtain ⟨_, -, hmethod⟩ := exists_of_mem_forall₂ hservice.methods hm
  rw [hmethod.goName, hmethod.name]

end

/-! ## Failure -/

/-- Whether an error is that of the first mention in a file that does not stand for a Go type, where
`misses` says why it does not. -/
def FirstUnresolved (means : String → Go.Ident → Prop) (misses : MessageMention → Error → Prop)
    (f : Proto.File) (e : Error) : Prop :=
  ∃ before mention after, f.mentions = before ++ mention :: after ∧
    (∀ x ∈ before, ∃ ident, means x.typeName ident) ∧ misses mention e

section

variable {scope : Scope} {e : Error}

theorem Method.failure?_ofProto (service : String) (q : Proto.Method) :
    failure? (Method.ofProto scope service q) =
      (q.mentions service).findSome? scope.missing? := by
  -- The response is only looked up once the request has been found.
  have houtput : ∀ input, failure? (scope.identOf (service ++ "." ++ q.name) q.output >>=
      fun output => pure (f := Except Error) (Method.mk q.name (Go.exportedName q.name) input output
        q.clientStreaming q.serverStreaming)) =
      scope.missing? ⟨service ++ "." ++ q.name, q.output⟩ := fun input => by
    rw [failure?_bind (r := none) fun _ => rfl, Option.or_none, Scope.missing?]
  have hinput : failure? (scope.identOf (service ++ "." ++ q.name) q.input) =
      scope.missing? ⟨service ++ "." ++ q.name, q.input⟩ := rfl
  rw [Method.ofProto, failure?_bind houtput, hinput, Proto.Method.mentions, List.findSome?_cons,
    List.findSome?_singleton]
  cases scope.missing? ⟨service ++ "." ++ q.name, q.input⟩ <;> rfl

theorem Service.failure?_ofProto (package : String) (p : Proto.Service) :
    failure? (Service.ofProto scope package p) =
      (p.mentions package).findSome? scope.missing? := by
  rw [Service.ofProto, failure?_bind (r := none) fun _ => rfl, Option.or_none, failure?_mapM,
    Proto.Service.mentions, findSome?_flatMap]
  simp only [Method.failure?_ofProto]

theorem File.failure?_ofProto (f : Proto.File) :
    failure? (File.ofProto scope f) =
      (failure? (scope.packageOf f.name)).or (f.mentions.findSome? scope.missing?) := by
  have hservices : ∀ package : Go.Package,
      failure? (f.services.mapM (Service.ofProto scope f.package) >>=
        fun services => pure (f := Except Error) (File.mk f.name package services)) =
      f.mentions.findSome? scope.missing? := fun package => by
    rw [failure?_bind (r := none) fun _ => rfl, Option.or_none, failure?_mapM,
      Proto.File.mentions, findSome?_flatMap]
    simp only [Service.failure?_ofProto]
  exact failure?_bind hservices

theorem findSome?_missing?_eq_some_iff {f : Proto.File} :
    f.mentions.findSome? scope.missing? = some e ↔
      FirstUnresolved scope.Means scope.Misses f e := by
  rw [findSome?_eq_some_iff_first]
  simp only [Scope.missing?_eq_some_iff, Scope.missing?_eq_none_iff]
  rfl

theorem exists_firstUnresolved_iff {f : Proto.File} :
    (∃ e, FirstUnresolved scope.Means scope.Misses f e) ↔
      ∃ mention ∈ f.mentions, ∃ e, scope.Misses mention e := by
  simp only [← findSome?_missing?_eq_some_iff, ← Scope.missing?_eq_some_iff,
    ← Option.isSome_iff_exists, List.findSome?_isSome_iff]

/-- A file has a model if it has a Go package and all its mentions can be resolved. -/
theorem File.exists_ofProto_eq_ok_iff {f : Proto.File} :
    (∃ file, File.ofProto scope f = .ok file) ↔
      (∃ package, scope.packages.find? f.name = some package) ∧
        ∀ mention ∈ f.mentions, ∃ ident, scope.Means mention.typeName ident := by
  rw [← failure?_eq_none_iff, File.failure?_ofProto, Option.or_eq_none_iff, failure?_eq_none_iff,
    List.findSome?_eq_none_iff]
  simp only [Scope.packageOf_eq_ok_iff, Scope.missing?_eq_none_iff]

/-- A file has no model if it has no Go package, or else because of the first mention that cannot be
resolved. -/
theorem File.ofProto_eq_error_iff {f : Proto.File} :
    File.ofProto scope f = .error e ↔
      scope.packages.find? f.name = none ∧ e = .noGoPackage f.name ∨
        (scope.packages.find? f.name).isSome ∧
          FirstUnresolved scope.Means scope.Misses f e := by
  rw [← failure?_eq_some_iff, File.failure?_ofProto, Option.or_eq_some_iff, failure?_eq_some_iff,
    failure?_eq_none_iff, Scope.packageOf_eq_error_iff, findSome?_missing?_eq_some_iff]
  simp only [Scope.packageOf_eq_ok_iff, Option.isSome_iff_exists]

end

/-! ## What models depend on -/

section

variable {scope scope' : Scope}

theorem Method.ofProto_congr {service : String} {q : Proto.Method}
    (h : ∀ mention ∈ q.mentions service, scope.identOf mention.method mention.typeName =
      scope'.identOf mention.method mention.typeName) :
    Method.ofProto scope service q = Method.ofProto scope' service q := by
  have hinput := h ⟨service ++ "." ++ q.name, q.input⟩ List.mem_cons_self
  have houtput := h ⟨service ++ "." ++ q.name, q.output⟩
    (List.mem_cons_of_mem _ List.mem_cons_self)
  simp only [Method.ofProto, hinput, houtput]

theorem Service.ofProto_congr {package : String} {p : Proto.Service}
    (h : ∀ mention ∈ p.mentions package, scope.identOf mention.method mention.typeName =
      scope'.identOf mention.method mention.typeName) :
    Service.ofProto scope package p = Service.ofProto scope' package p := by
  have hmethods : p.methods.mapM (Method.ofProto scope (serviceFullName package p.name)) =
      p.methods.mapM (Method.ofProto scope' (serviceFullName package p.name)) :=
    mapM_congr fun q hq => Method.ofProto_congr fun mention hmention =>
      h mention (List.mem_flatMap.mpr ⟨q, hq, hmention⟩)
  simp only [Service.ofProto, hmethods]

/-- The model of a file depends on the file's own package and on what its mentions stand for. -/
theorem File.ofProto_congr {f : Proto.File}
    (hpackage : scope.packageOf f.name = scope'.packageOf f.name)
    (h : ∀ mention ∈ f.mentions, scope.identOf mention.method mention.typeName =
      scope'.identOf mention.method mention.typeName) :
    File.ofProto scope f = File.ofProto scope' f := by
  have hservices : f.services.mapM (Service.ofProto scope f.package) =
      f.services.mapM (Service.ofProto scope' f.package) :=
    mapM_congr fun p hp => Service.ofProto_congr fun mention hmention =>
      h mention (List.mem_flatMap.mpr ⟨p, hp, hmention⟩)
  simp only [File.ofProto, hpackage, hservices]

end

end Rpc

end GoStubs
