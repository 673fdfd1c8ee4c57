import GoStubs.Proofs.Stub.TopLevel
/-!
# No name is declared twice

Within the stub of one service every declaration at the top level has a name of its own, as long as
the Go names of the methods differ. A name is read back from its end: the last word, the case of
the first letter and then what surrounds the name of the service leave one declaration only.

* `Role`: what a declaration is for, and `roles`, the declarations of a stub.
* `Role.name_inj`: declarations for different things have different names.
* `emits_distinct_names`: the names of a stub are pairwise distinct.
-/

namespace GoStubs.Stub

open GoStubs.Go GoStubs.Rpc GoStubs.Text

/-! ## Declarations and what they are for -/

/-- What a declaration of a stub is for. -/
inductive Role where
  | serviceInterface
  | registerFunction
  | clientInterface
  | clientStruct
  | clientConstructor
  /-- The interface of a side's handle on the method with the given Go name. -/
  | streamInterface (method : String) (side : Side)
  /-- The structure behind that handle. -/
  | streamWrapper (method : String) (side : Side)
  deriving DecidableEq, Repr

namespace Role

/-- The name of the declaration, for a service with the given Go name. -/
def name (service : String) : Role → String
  | serviceInterface => Stub.serviceInterface service
  | registerFunction => Stub.registerFunction service
  | clientInterface => Stub.clientInterface service
  | clientStruct => Stub.clientStruct service
  | clientConstructor => Stub.clientConstructor service
  | streamInterface method side => Stub.streamInterface service method side
  | streamWrapper method side => Stub.streamWrapper service method side

/-- The method that the declaration belongs to. -/
def method? : Role → Option String
  | serviceInterface | registerFunction | clientInterface | clientStruct | clientConstructor => none
  | streamInterface method _ | streamWrapper method _ => some method

end Role

/-- The declarations of a side's handle, for a method that streams. -/
def handleRoles (m : Method) (side : Side) : List Role :=
  if m.flow.streams then [.streamInterface m.goName side, .streamWrapper m.goName side] else []

/-- The declarations of a stub at the top level: the client interface for a service that streams,
and both handles for each of its methods that do. -/
def roles (s : Service) : List Role :=
  [Role.serviceInterface] ++ s.methods.flatMap (handleRoles · .server) ++
    [Role.registerFunction] ++ (if s.hasStreams then [Role.clientInterface] else []) ++
    [Role.clientStruct, Role.clientConstructor] ++ s.methods.flatMap (handleRoles · .client)

theorem handleNames_eq_map (s : Service) (m : Method) (side : Side) :
    handleNames s m side = (handleRoles m side).map (Role.name s.goName) := by
  unfold handleNames handleRoles
  split <;> rfl

theorem topLevelNames_eq_map (s : Service) :
    topLevelNames s = (roles s).map (Role.name s.goName) := by
  have hclient : (if s.hasStreams then [clientInterface s.goName] else []) =
      (if s.hasStreams then [Role.clientInterface] else []).map (Role.name s.goName) := by
    split <;> rfl
  simp only [topLevelNames_eq, roles, List.map_append, List.map_flatMap, ← handleNames_eq_map,
    ← hclient]
  rfl

/-! ## Names of different declarations -/

namespace Role

/-- The last word of the name, and whether the name is exported. -/
def kind : Role → Ending × Bool
  | serviceInterface | registerFunction => (.service, true)
  | clientInterface | clientConstructor => (.stream .client, true)
  | clientStruct => (.stream .client, false)
  | streamInterface _ side => (.stream side, true)
  | streamWrapper _ side => (.stream side, false)

/-- What stands before the last word of the name. -/
def stem (service : String) : Role → String
  | serviceInterface | clientInterface => service
  | registerFunction => "Register" ++ service
  | clientConstructor => "New" ++ service
  | clientStruct => decapitalize service
  | streamInterface method _ => service ++ "_" ++ method
  | streamWrapper method _ => lower service ++ method

variable {service : String} {r r' : Role}

theorem name_eq (hs : isExportedIdentifier service = true) (r : Role) :
    r.name service = r.stem service ++ r.kind.1.word := by
  cases r with
  | registerFunction | clientConstructor => exact (String.append_assoc ..).symm
  | clientStruct => exact decapitalize_append hs "Client"
  | serviceInterface | clientInterface | streamInterface | streamWrapper => rfl

theorem startsUpper_stem (hs : isExportedIdentifier service = true) (r : Role) :
    startsUpper (r.stem service) = r.kind.2 := by
  cases r with
  | serviceInterface | clientInterface => exact startsUpper_self hs
  | registerFunction | clientConstructor => simp [stem, kind, startsUpper]
  | clientStruct => exact startsUpper_decapitalize hs
  | streamInterface method side =>
    rw [stem, String.append_assoc]
    exact startsUpper_append hs _
  | streamWrapper method side => exact startsUpper_lower_append hs _

end Role

/-! ### Stems that could be taken for each other -/

section

variable {service method : String}

/-- A text is shorter than what ends in it. -/
theorem ne_append_self {word : String} (h : word ≠ "") : service ≠ word ++ service := by
  intro heq
  have hlen := congrArg String.length heq
  have hpos := length_pos_of_ne_empty h
  rw [String.length_append] at hlen
  omega

theorem ne_underscore_append : service ≠ service ++ "_" ++ method := by
  intro heq
  have hlen := congrArg String.length heq
  rw [String.length_append, String.length_append, show "_".length = 1 from rfl] at hlen
  omega

/-- Were the two one text, the service's name would turn three letters in front into a method
behind; but the method stands after an underscore, of which there is none among the letters. -/
theorem new_append_ne : "New" ++ service ≠ service ++ "_" ++ method := by
  intro heq
  have hcount := congrArg (fun t : String => t.toList.count '_') heq
  simp only [String.toList_append, List.count_append] at hcount
  have hnew : "New".toList.count '_' = 0 := by decide
  have hunderscore : "_".toList.count '_' = 1 := by decide
  omega

theorem decapitalize_ne_lower_append (hm : method ≠ "") :
    decapitalize service ≠ lower service ++ method := by
  intro heq
  have hlen := congrArg String.length heq
  have hlow := length_le_length_lower service
  have hpos := length_pos_of_ne_empty hm
  rw [length_decapitalize, String.length_append] at hlen
  omega

end

namespace Role

variable {service : String} {r r' : Role}

/-- Among the declarations of one kind the stem tells what they are for. -/
theorem stem_inj (hr : r.method? ≠ some "") (hr' : r'.method? ≠ some "") (hkind : r.kind = r'.kind)
    (h : r.stem service = r'.stem service) : r = r' := by
  have hregister : service ≠ "Register" ++ service := ne_append_self (by decide)
  have hnew : service ≠ "New" ++ service := ne_append_self (by decide)
  -- Declarations of different kinds are no concern here, and those of one kind are few.
  cases r with
  | serviceInterface =>
    cases r' with
    | serviceInterface => rfl
    | registerFunction => exact absurd h hregister
    | _ => cases hkind
  | registerFunction =>
    cases r' with
    | serviceInterface => exact absurd h.symm hregister
    | registerFunction => rfl
    | _ => cases hkind
  | clientInterface =>
    cases r' with
    | clientInterface => rfl
    | clientConstructor => exact absurd h hnew
    | streamInterface method side => exact absurd h ne_underscore_append
    | _ => cases hkind
  | clientConstructor =>
    cases r' with
    | clientInterface => exact absurd h.symm hnew
    | clientConstructor => rfl
    | streamInterface method side => exact absurd h new_append_ne
    | _ => cases hkind
  | clientStruct =>
    cases r' with
    | clientStruct => rfl
    | streamWrapper method side =>
      exact absurd h (decapitalize_ne_lower_append fun hm => hr' (congrArg some hm))
    | _ => cases hkind
  | streamInterface method side =>
    cases r' with
    | clientInterface => exact absurd h.symm ne_underscore_append
    | clientConstructor => exact absurd h.symm new_append_ne
    | streamInterface method' side' =>
      obtain rfl : method = method' := (String.append_right_inj _).mp h
      cases hkind
      rfl
    | _ => cases hkind
  | streamWrapper method side =>
    cases r' with
    | clientStruct =>
      exact absurd h.symm (decapitalize_ne_lower_append fun hm => hr (congrArg some hm))
    | streamWrapper method' side' =>
      obtain rfl : method = method' := (String.append_right_inj _).mp h
      cases hkind
      rfl
    | _ => cases hkind

/-- Declarations for different things have different names. -/
theorem name_inj (hs : isExportedIdentifier service = true) (hr : r.method? ≠ some "")
    (hr' : r'.method? ≠ some "") (h : r.name service = r'.name service) : r = r' := by
  rw [name_eq hs, name_eq hs] at h
  obtain ⟨hstem, hending⟩ := append_word_inj h
  have hexported : r.kind.2 = r'.kind.2 := by
    rw [← startsUpper_stem hs, hstem, startsUpper_stem hs]
  exact stem_inj hr hr' (Prod.ext hending hexported) hstem

end Role

/-! ## The names of a stub -/

section

variable {s : Service}

theorem method?_of_mem_handleRoles {m : Method} {side : Side} {r : Role}
    (h : r ∈ handleRoles m side) : r.method? = some m.goName ∧ r.kind.1 = .stream side := by
  unfold handleRoles at h
  split at h
  · simp only [List.mem_cons, List.not_mem_nil, or_false] at h
    rcases h with rfl | rfl <;> exact ⟨rfl, rfl⟩
  · cases h

theorem nodup_handleRoles (m : Method) (side : Side) : (handleRoles m side).Nodup := by
  unfold handleRoles
  split <;> simp

theorem nodup_flatMap_handleRoles (hnames : (s.methods.map (·.goName)).Nodup) (side : Side) :
    (s.methods.flatMap (handleRoles · side)).Nodup := by
  refine List.nodup_flatMap.mpr ⟨fun m _ => nodup_handleRoles m side, ?_⟩
  refine (List.pairwise_map.mp hnames).imp fun {m n} hne r hm hn => ?_
  have hmethod := (method?_of_mem_handleRoles hm).1.symm.trans (method?_of_mem_handleRoles hn).1
  exact hne (Option.some.inj hmethod)

/-- The declarations that a stub has whatever its methods are called. -/
def ownRoles (s : Service) : List Role :=
  [Role.serviceInterface, Role.registerFunction] ++
    (if s.hasStreams then [Role.clientInterface] else []) ++
    [Role.clientStruct, Role.clientConstructor]

theorem method?_of_mem_ownRoles {r : Role} (h : r ∈ ownRoles s) : r.method? = none := by
  unfold ownRoles at h
  split at h
  · revert r
    decide
  · revert r
    decide

theorem nodup_ownRoles (s : Service) : (ownRoles s).Nodup := by
  unfold ownRoles
  split <;> decide

theorem roles_perm (s : Service) : (roles s).Perm (ownRoles s ++
    (s.methods.flatMap (handleRoles · .server) ++ s.methods.flatMap (handleRoles · .client))) := by
  refine List.perm_iff_count.mpr fun r => ?_
  simp only [roles, ownRoles, List.count_append, List.count_cons, List.count_nil]
  omega

theorem nodup_roles (hnames : (s.methods.map (·.goName)).Nodup) : (roles s).Nodup := by
  rw [(roles_perm s).nodup_iff]
  have hsides : (s.methods.flatMap (handleRoles · .server)).Disjoint
      (s.methods.flatMap (handleRoles · .client)) := by
    intro r hserver hclient
    obtain ⟨m, -, hm⟩ := List.mem_flatMap.mp hserver
    obtain ⟨n, -, hn⟩ := List.mem_flatMap.mp hclient
    have hside := (method?_of_mem_handleRoles hm).2.symm.trans (method?_of_mem_handleRoles hn).2
    cases hside
  have hown : (ownRoles s).Disjoint (s.methods.flatMap (handleRoles · .server) ++
      s.methods.flatMap (handleRoles · .client)) := by
    intro r hr hhandle
    rw [List.mem_append, List.mem_flatMap, List.mem_flatMap] at hhandle
    have hnone := method?_of_mem_ownRoles hr
    rcases hhandle with ⟨m, -, hm⟩ | ⟨m, -, hm⟩ <;>
      simp [(method?_of_mem_handleRoles hm).1] at hnone
  exact ((nodup_ownRoles s).append
    ((nodup_flatMap_handleRoles hnames _).append (nodup_flatMap_handleRoles hnames _) hsides) hown)

/-- A declaration that belongs to a method belongs to one of the service's. -/
theorem method?_ne_of_mem_roles (hmethods : ∀ m ∈ s.methods, m.goName ≠ "") {r : Role}
    (h : r ∈ roles s) : r.method? ≠ some "" := by
  rw [(roles_perm s).mem_iff, List.mem_append, List.mem_append, List.mem_flatMap,
    List.mem_flatMap] at h
  rcases h with hown | ⟨m, hm, hr⟩ | ⟨m, hm, hr⟩
  · simp [method?_of_mem_ownRoles hown]
  · simpa [(method?_of_mem_handleRoles hr).1] using hmethods m hm
  · simpa [(method?_of_mem_handleRoles hr).1] using hmethods m hm

theorem nodup_topLevelNames (hs : HasExportedNames s)
    (hnames : (s.methods.map (·.goName)).Nodup) : (topLevelNames s).Nodup := by
  have hmethods : ∀ m ∈ s.methods, m.goName ≠ "" := fun m hm hempty =>
    absurd (hs.methods m hm) (by rw [hempty]; decide)
  rw [topLevelNames_eq_map, List.nodup_map_iff_inj_on (nodup_roles hnames)]
  intro r hr r' hr' h
  exact Role.name_inj hs.service (method?_ne_of_mem_roles hmethods hr)
    (method?_ne_of_mem_roles hmethods hr') h

end

/-- **Names of a stub.** Whatever its file imports already, the stub of a service whose methods have
distinct Go names declares at the top level exactly the interfaces, structures and functions that
the service and its streaming methods call for, and each of them under a name of its own. -/
theorem emits_distinct_names (imports : Imports) (name : String) (s : Service)
    (hname : isProtoIdentifier name = true) (hservice : s.goName = exportedName name)
    (hmethods : ∀ m ∈ s.methods, isProtoIdentifier m.name = true ∧ m.goName = exportedName m.name)
    (hnames : (s.methods.map (·.goName)).Nodup) :
    ∃ text after, Emits imports s text after ∧
      topLevelNames s = (roles s).map (Role.name s.goName) ∧ (topLevelNames s).Nodup := by
  obtain ⟨text, after, hemits⟩ := emits imports s
  have hexported : HasExportedNames s := by
    constructor
    · rw [hservice]
      exact isExportedIdentifier_exportedName hname
    · intro m hm
      rw [(hmethods m hm).2]
      exact isExportedIdentifier_exportedName (hmethods m hm).1
  exact ⟨text, after, hemits, topLevelNames_eq_map s, nodup_topLevelNames hexported hnames⟩

theorem emits_distinct_names_mailbox :
    isProtoIdentifier "mail_box" = true ∧ mailbox.goName = exportedName "mail_box" ∧
      (∀ m ∈ mailbox.methods,
        isProtoIdentifier m.name = true ∧ m.goName = exportedName m.name) ∧
      (mailbox.methods.map (·.goName)).Nodup ∧
      ∃ text after, Emits mailImports mailbox text after ∧
        topLevelNames mailbox = (roles mailbox).map (Role.name mailbox.goName) ∧
        (topLevelNames mailbox).Nodup :=
  ⟨by decide, by decide, by decide, by decide,
    emits_distinct_names mailImports "mail_box" mailbox (by decide) (by decide) (by decide)
      (by decide)⟩

end GoStubs.Stub
