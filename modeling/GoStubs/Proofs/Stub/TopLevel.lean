import GoStubs.Proofs.Go.ExportedName
import GoStubs.Proofs.Rpc.Description
import GoStubs.Proofs.Stub.Declarations
/-!
# Names at the top level of a file

All names that a stub declares at the top level are glued from the Go names of the service and of a
method, an underscore and fixed words. Two stubs of one file share a name only if their services are
named after each other in one of a few ways; the last word of a name and the case of its first
letter tell all other names apart.

* `topLevelNames`: the names that a stub declares, and the lines that introduce them in its text.
* `ExportedStem`, `UnexportedStem`: what stands before the last word of a name.
* `Clashes`: the ways in which two services share a name.
* `emits_clashing_iff`: these are all the ways.
-/

namespace GoStubs.Stub

open GoStubs.Go GoStubs.Rpc GoStubs.Text GoStubs.Unicode

/-! ## First letters -/

/-- Whether a text starts with an upper-case letter. -/
def startsUpper (s : String) : Bool := s.toList.head?.any Char.isUpper

section

variable {a b m n : String}

/-- An exported identifier in lower case, and with its first letter alone in lower case. -/
theorem exists_of_isExportedIdentifier (h : isExportedIdentifier a = true) :
    ∃ c cs, a.toList = c :: cs ∧ c.isUpper = true ∧
      (lower a).toList = c.toLower :: cs.map Char.toLower ∧
      (decapitalize a).toList = c.toLower :: cs := by
  obtain ⟨c, cs, hcs, hc, hrest⟩ := isExportedIdentifier_iff.mp h
  have hname : isNameChar c = true := by simp [isNameChar, Char.isAlphanum, Char.isAlpha, hc]
  have hascii : ∀ d ∈ c :: cs, isAscii d = true := List.forall_mem_cons.mpr
    ⟨isAscii_of_isNameChar hname, fun d hd => isAscii_of_isNameChar (hrest d hd)⟩
  refine ⟨c, cs, hcs, hc, ?_, ?_⟩
  · rw [toList_lower_of_isAscii (by rwa [hcs]), hcs, List.map_cons]
  · rw [decapitalize, hcs, String.toList_ofList]

theorem startsUpper_append (h : isExportedIdentifier a = true) (b : String) :
    startsUpper (a ++ b) = true := by
  obtain ⟨c, cs, hcs, hc, -⟩ := exists_of_isExportedIdentifier h
  simp [startsUpper, hcs, hc]

theorem startsUpper_self (h : isExportedIdentifier a = true) : startsUpper a = true :=
  String.append_empty (s := a) ▸ startsUpper_append h ""

theorem startsUpper_lower_append (h : isExportedIdentifier a = true) (b : String) :
    startsUpper (lower a ++ b) = false := by
  obtain ⟨c, cs, -, -, hlower, -⟩ := exists_of_isExportedIdentifier h
  simp [startsUpper, hlower]

theorem startsUpper_decapitalize (h : isExportedIdentifier a = true) :
    startsUpper (decapitalize a) = false := by
  obtain ⟨c, cs, -, -, -, hdecapitalize⟩ := exists_of_isExportedIdentifier h
  simp [startsUpper, hdecapitalize]

theorem decapitalize_append (h : isExportedIdentifier a = true) (b : String) :
    decapitalize (a ++ b) = decapitalize a ++ b := by
  obtain ⟨c, cs, hcs, -, -, hdecapitalize⟩ := exists_of_isExportedIdentifier h
  rw [← String.toList_inj, String.toList_append, hdecapitalize, decapitalize, String.toList_append,
    hcs, List.cons_append, String.toList_ofList]
  rfl

/-- A capital can be put back. -/
theorem decapitalize_inj (ha : isExportedIdentifier a = true) (hb : isExportedIdentifier b = true)
    (h : decapitalize a = decapitalize b) : a = b := by
  obtain ⟨c, cs, hcs, hc, -, hac⟩ := exists_of_isExportedIdentifier ha
  obtain ⟨d, ds, hds, hd, -, hbd⟩ := exists_of_isExportedIdentifier hb
  rw [← String.toList_inj, hac, hbd, List.cons.injEq] at h
  have hself : ∀ {x : Char}, x.isUpper = true → x.toLower.toUpper = x := fun hx => by
    rw [Char.toUpper_toLower_eq_toUpper,
      Char.toUpper_eq_of_not_isLower (Char.not_isLower_of_isUpper hx)]
  have hcd : c = d := by rw [← hself hc, h.1, hself hd]
  rw [← String.toList_inj, hcs, hds, hcd, h.2]

/-- Behind a text in lower case, an exported identifier starts where the first capital stands. -/
theorem lower_append_inj (ha : isExportedIdentifier a = true) (hb : isExportedIdentifier b = true)
    (hm : isExportedIdentifier m = true) (hn : isExportedIdentifier n = true)
    (h : lower a ++ m = lower b ++ n) : lower a = lower b ∧ m = n := by
  have htake : ∀ {x y : String}, isExportedIdentifier x = true → isExportedIdentifier y = true →
      (lower x ++ y).toList.takeWhile (!·.isUpper) = (lower x).toList := fun hx hy => by
    obtain ⟨c, cs, -, -, hlower, -⟩ := exists_of_isExportedIdentifier hx
    obtain ⟨d, ds, hds, hd, -⟩ := exists_of_isExportedIdentifier hy
    rw [String.toList_append, List.takeWhile_append_of_pos (by simp [hlower]), hds,
      List.takeWhile_cons_of_neg (by simp [hd]), List.append_nil]
  have hlower : lower a = lower b := by
    rw [← String.toList_inj, ← htake ha hm, h, htake hb hn]
  rw [hlower] at h
  exact ⟨hlower, (String.append_right_inj _).mp h⟩

end

/-! ## The names of a stub -/

/-- The names that a stub declares at the top level, in the order of its declarations. -/
def topLevelNames (s : Service) : List String := (declarations s).filterMap Decl.topLevelName?

/-- The names that a handle declares. -/
def handleNames (s : Service) (m : Method) (side : Side) : List String :=
  if m.flow.streams then [streamInterface s.goName m.goName side, handleWrapper s m side] else []

theorem topLevelNames_handleDecls (s : Service) (m : Method) (side : Side) :
    (handleDecls s m side).filterMap Decl.topLevelName? = handleNames s m side := by
  unfold handleDecls handleNames
  split
  · simp [handleInterface, handleStruct, operationFunc, Decl.topLevelName?, List.filterMap_map]
  · rfl

theorem topLevelNames_eq (s : Service) : topLevelNames s =
    [serviceInterface s.goName] ++ s.methods.flatMap (handleNames s · .server) ++
      [registerFunction s.goName] ++ (if s.hasStreams then [clientInterface s.goName] else []) ++
      [clientStruct s.goName, clientConstructor s.goName] ++
      s.methods.flatMap (handleNames s · .client) := by
  have hclient : (callerInterfaceSections s).flatten.filterMap Decl.topLevelName? =
      if s.hasStreams then [clientInterface s.goName] else [] := by
    rw [flatten_callerInterfaceSections]
    split <;> rfl
  have hfixed : [implementationInterface s].filterMap Decl.topLevelName? =
        [serviceInterface s.goName] ∧
      [Decl.func (registerFunc s)].filterMap Decl.topLevelName? = [registerFunction s.goName] ∧
      (callerSection s).filterMap Decl.topLevelName? =
        [clientStruct s.goName, clientConstructor s.goName] := ⟨rfl, rfl, rfl⟩
  have hcall : ∀ m, [Decl.func (callFunc s m)].filterMap Decl.topLevelName? = [] := fun _ => rfl
  rw [topLevelNames, filterMap_declarations, hfixed.1, hfixed.2.1, hfixed.2.2, hclient]
  simp only [hcall, List.nil_append, topLevelNames_handleDecls]

/-- Each of them stands in the text, on the line that introduces it. -/
theorem Emits.standsIn_of_mem_topLevelNames {imports after : Imports} {s : Service}
    {text name : String} (hemits : Emits imports s text after) (h : name ∈ topLevelNames s) :
    ∃ words, Introduces name words ∧ StandsIn (linesText after [⟨0, words⟩]) text := by
  obtain ⟨words, hwords, hshows⟩ := exists_shows_introduces h
  exact ⟨words, hwords, hemits.standsIn hshows⟩

/-! ## Last words -/

/-- What the name of a declaration ends in. -/
inductive Ending where
  | service
  | stream (side : Side)
  deriving DecidableEq, Repr

def Ending.word : Ending → String
  | service => "Service"
  | stream side => sideSuffix side

theorem word_eq_of_getLast?_eq : ∀ {e f : Ending},
    e.word.toList.getLast? = f.word.toList.getLast? → e = f := by
  rintro (_ | _ | _) (_ | _ | _) <;> decide

/-- The words end in different letters, so a name has but one of them. -/
theorem append_word_inj {a b : String} {e f : Ending} (h : a ++ e.word = b ++ f.word) :
    a = b ∧ e = f := by
  have hlast : ∀ (x : String) (g : Ending),
      (x ++ g.word).toList.getLast? = g.word.toList.getLast? := fun x g => by
    have hne : g.word.toList ≠ [] := by
      revert g
      rintro (_ | _ | _) <;> decide
    rw [String.toList_append, List.getLast?_append_of_ne_nil _ hne]
  obtain rfl : e = f := word_eq_of_getLast?_eq (by rw [← hlast a e, h, hlast b f])
  exact ⟨(String.append_left_inj _).mp h, rfl⟩

/-- What stands before the last words of the names that a stub exports. -/
inductive ExportedStem (s : Service) : Ending → String → Prop where
  | serviceInterface : ExportedStem s .service s.goName
  | registerFunction : ExportedStem s .service ("Register" ++ s.goName)
  | clientInterface (hs : s.hasStreams = true) : ExportedStem s (.stream .client) s.goName
  | clientConstructor : ExportedStem s (.stream .client) ("New" ++ s.goName)
  | streamInterface {m : Method} (hm : m ∈ s.methods) (hflow : m.flow.streams = true)
      (side : Side) : ExportedStem s (.stream side) (s.goName ++ "_" ++ m.goName)

/-- What stands before the last words of the other names. -/
inductive UnexportedStem (s : Service) : Ending → String → Prop where
  | clientStruct : UnexportedStem s (.stream .client) (decapitalize s.goName)
  | streamWrapper {m : Method} (hm : m ∈ s.methods) (hflow : m.flow.streams = true)
      (side : Side) : UnexportedStem s (.stream side) (lower s.goName ++ m.goName)

section

variable {s t : Service} {e : Ending} {a : String}

theorem ExportedStem.startsUpper (h : ExportedStem s e a)
    (hs : isExportedIdentifier s.goName = true) : startsUpper a = true := by
  cases h with
  | serviceInterface | clientInterface => exact startsUpper_self hs
  | registerFunction => simp [Stub.startsUpper]
  | clientConstructor => simp [Stub.startsUpper]
  | streamInterface => rw [String.append_assoc]; exact startsUpper_append hs _

theorem UnexportedStem.startsUpper (h : UnexportedStem s e a)
    (hs : isExportedIdentifier s.goName = true) : startsUpper a = false := by
  cases h with
  | clientStruct => exact startsUpper_decapitalize hs
  | streamWrapper => exact startsUpper_lower_append hs _

/-- A name of a stub, by its stem and its last word. -/
def Declares (s : Service) (name : String) : Prop :=
  ∃ e a, (ExportedStem s e a ∨ UnexportedStem s e a) ∧ name = a ++ e.word

theorem mem_handleNames_iff {m : Method} {side : Side} {name : String} :
    name ∈ handleNames s m side ↔ m.flow.streams = true ∧
      (name = s.goName ++ "_" ++ m.goName ++ sideSuffix side ∨
        name = lower s.goName ++ m.goName ++ sideSuffix side) := by
  unfold handleNames
  split
  · next hflow => simp [hflow, streamInterface, handleWrapper, streamWrapper]
  · next hflow => simp [hflow]

theorem declares_of_mem_handleNames {m : Method} (hm : m ∈ s.methods) {side : Side}
    {name : String} (h : name ∈ handleNames s m side) : Declares s name := by
  obtain ⟨hflow, rfl | rfl⟩ := mem_handleNames_iff.mp h
  · exact ⟨_, _, Or.inl (.streamInterface hm hflow side), rfl⟩
  · exact ⟨_, _, Or.inr (.streamWrapper hm hflow side), rfl⟩

theorem mem_topLevelNames_of_mem_handleNames {m : Method} (hm : m ∈ s.methods) {side : Side}
    {name : String} (h : name ∈ handleNames s m side) : name ∈ topLevelNames s := by
  have hmem : name ∈ s.methods.flatMap (handleNames s · side) :=
    List.mem_flatMap.mpr ⟨m, hm, h⟩
  rw [topLevelNames_eq]
  cases side with
  | server => simp [hmem]
  | client => simp [hmem]

theorem clientStruct_eq (hs : isExportedIdentifier s.goName = true) :
    clientStruct s.goName = decapitalize s.goName ++ "Client" := decapitalize_append hs "Client"

theorem mem_topLevelNames_iff (hs : isExportedIdentifier s.goName = true) {name : String} :
    name ∈ topLevelNames s ↔ Declares s name := by
  constructor
  · intro h
    simp only [topLevelNames_eq, List.mem_append, List.mem_flatMap, List.mem_cons,
      List.not_mem_nil, or_false] at h
    rcases h with ((((rfl | ⟨m, hm, h⟩) | rfl) | h) | rfl | rfl) | ⟨m, hm, h⟩
    · exact ⟨_, _, Or.inl .serviceInterface, rfl⟩
    · exact declares_of_mem_handleNames hm h
    · exact ⟨_, _, Or.inl .registerFunction, (String.append_assoc ..).symm⟩
    · split at h
      · next hstreams => exact ⟨_, _, Or.inl (.clientInterface hstreams), List.mem_singleton.mp h⟩
      · cases h
    · exact ⟨_, _, Or.inr .clientStruct, clientStruct_eq hs⟩
    · exact ⟨_, _, Or.inl .clientConstructor, (String.append_assoc ..).symm⟩
    · exact declares_of_mem_handleNames hm h
  · rintro ⟨e, a, h | h, rfl⟩
    · cases h with
      | serviceInterface => simp [topLevelNames_eq, serviceInterface, Ending.word]
      | registerFunction =>
        simp [topLevelNames_eq, registerFunction, serviceInterface, Ending.word,
          String.append_assoc]
      | clientInterface hstreams =>
        simp [topLevelNames_eq, hstreams, clientInterface, Ending.word, sideSuffix]
      | clientConstructor =>
        simp [topLevelNames_eq, clientConstructor, clientInterface, Ending.word, sideSuffix,
          String.append_assoc]
      | streamInterface hm hflow side =>
        exact mem_topLevelNames_of_mem_handleNames hm (mem_handleNames_iff.mpr ⟨hflow, Or.inl rfl⟩)
    · cases h with
      | clientStruct => simp [topLevelNames_eq, clientStruct_eq hs, Ending.word, sideSuffix]
      | streamWrapper hm hflow side =>
        exact mem_topLevelNames_of_mem_handleNames hm (mem_handleNames_iff.mpr ⟨hflow, Or.inr rfl⟩)

/-! ## Shared names -/

/-- Two stubs share names only if these have one stem and one last word. -/
theorem exists_mem_topLevelNames_iff (hs : isExportedIdentifier s.goName = true)
    (ht : isExportedIdentifier t.goName = true) :
    (∃ name ∈ topLevelNames s, name ∈ topLevelNames t) ↔
      ∃ e a, ExportedStem s e a ∧ ExportedStem t e a ∨
        UnexportedStem s e a ∧ UnexportedStem t e a := by
  constructor
  · rintro ⟨name, hsname, htname⟩
    obtain ⟨e, a, ha, rfl⟩ := (mem_topLevelNames_iff hs).mp hsname
    obtain ⟨f, b, hb, heq⟩ := (mem_topLevelNames_iff ht).mp htname
    obtain ⟨rfl, rfl⟩ := append_word_inj heq
    refine ⟨e, a, ?_⟩
    -- The first letter tells which of the two kinds of stems it is.
    rcases ha with ha | ha <;> rcases hb with hb | hb
    · exact Or.inl ⟨ha, hb⟩
    · exact absurd (ha.startsUpper hs) (by simp [hb.startsUpper ht])
    · exact absurd (hb.startsUpper ht) (by simp [ha.startsUpper hs])
    · exact Or.inr ⟨ha, hb⟩
  · rintro ⟨e, a, ⟨ha, hb⟩ | ⟨ha, hb⟩⟩
    · exact ⟨_, (mem_topLevelNames_iff hs).mpr ⟨e, a, Or.inl ha, rfl⟩,
        (mem_topLevelNames_iff ht).mpr ⟨e, a, Or.inl hb, rfl⟩⟩
    · exact ⟨_, (mem_topLevelNames_iff hs).mpr ⟨e, a, Or.inr ha, rfl⟩,
        (mem_topLevelNames_iff ht).mpr ⟨e, a, Or.inr hb, rfl⟩⟩

/-- The ways in which the stub of `s` declares a name that the stub of `t` declares for something
else, or for a stream as well. -/
inductive Clashes (s t : Service) : Prop where
  /-- `t` is named like the registration of `s`, so its interface is that function. -/
  | register (h : t.goName = "Register" ++ s.goName)
  /-- `t` is named like the constructor of `s`, so its client interface is that function. -/
  | constructor (ht : t.hasStreams = true) (h : t.goName = "New" ++ s.goName)
  /-- `t` is named like a method of `s`, so its client interface is that of the method's handle. -/
  | method {m : Method} (hm : m ∈ s.methods) (hflow : m.flow.streams = true)
      (ht : t.hasStreams = true) (h : t.goName = s.goName ++ "_" ++ m.goName)
  /-- The constructor of `t` is named like a method of `s`. -/
  | methodConstructor {m : Method} (hm : m ∈ s.methods) (hflow : m.flow.streams = true)
      (h : "New" ++ t.goName = s.goName ++ "_" ++ m.goName)
  /-- Both are named like a method of the other, up to where their own names end. -/
  | methods {m n : Method} (hm : m ∈ s.methods) (hmflow : m.flow.streams = true)
      (hn : n ∈ t.methods) (hnflow : n.flow.streams = true)
      (h : s.goName ++ "_" ++ m.goName = t.goName ++ "_" ++ n.goName)
  /-- `t` is named like a method of `s` without an underscore, so its client structure is that
  behind the method's handle. -/
  | struct {m : Method} (hm : m ∈ s.methods) (hflow : m.flow.streams = true)
      (h : decapitalize t.goName = lower s.goName ++ m.goName)
  /-- Both are named alike but for the case of letters, and so are two of their methods. -/
  | wrappers {m n : Method} (hm : m ∈ s.methods) (hmflow : m.flow.streams = true)
      (hn : n ∈ t.methods) (hnflow : n.flow.streams = true)
      (hservice : lower s.goName = lower t.goName) (hmethod : m.goName = n.goName)

theorem clashes_of_exportedStem {b : String} (hne : s.goName ≠ t.goName)
    (hs : ExportedStem s e a) (ht : ExportedStem t e b) (h : a = b) :
    Clashes s t ∨ Clashes t s := by
  cases hs with
  | serviceInterface =>
    cases ht with
    | serviceInterface => exact absurd h hne
    | registerFunction => exact Or.inr (.register h)
  | registerFunction =>
    cases ht with
    | serviceInterface => exact Or.inl (.register h.symm)
    | registerFunction => exact absurd ((String.append_right_inj _).mp h) hne
  | clientInterface hstreams =>
    cases ht with
    | clientInterface => exact absurd h hne
    | clientConstructor => exact Or.inr (.constructor hstreams h)
    | streamInterface hn hnflow => exact Or.inr (.method hn hnflow hstreams h)
  | clientConstructor =>
    cases ht with
    | clientInterface hstreams => exact Or.inl (.constructor hstreams h.symm)
    | clientConstructor => exact absurd ((String.append_right_inj _).mp h) hne
    | streamInterface hn hnflow => exact Or.inr (.methodConstructor hn hnflow h)
  | streamInterface hm hmflow =>
    cases ht with
    | clientInterface hstreams => exact Or.inl (.method hm hmflow hstreams h.symm)
    | clientConstructor => exact Or.inl (.methodConstructor hm hmflow h.symm)
    | streamInterface hn hnflow => exact Or.inl (.methods hm hmflow hn hnflow h)

/-- Whether the Go names of a service and of its methods are identifiers that Go exports. -/
structure HasExportedNames (s : Service) : Prop where
  service : isExportedIdentifier s.goName = true
  methods : ∀ m ∈ s.methods, isExportedIdentifier m.goName = true

theorem clashes_of_unexportedStem {b : String} (hs : HasExportedNames s) (ht : HasExportedNames t)
    (hne : s.goName ≠ t.goName) (ha : UnexportedStem s e a) (hb : UnexportedStem t e b)
    (h : a = b) : Clashes s t ∨ Clashes t s := by
  cases ha with
  | clientStruct =>
    cases hb with
    | clientStruct => exact absurd (decapitalize_inj hs.service ht.service h) hne
    | streamWrapper hn hnflow => exact Or.inr (.struct hn hnflow h)
  | streamWrapper hm hmflow =>
    cases hb with
    | clientStruct => exact Or.inl (.struct hm hmflow h.symm)
    | streamWrapper hn hnflow =>
      obtain ⟨hservice, hmethod⟩ :=
        lower_append_inj hs.service ht.service (hs.methods _ hm) (ht.methods _ hn) h
      exact Or.inl (.wrappers hm hmflow hn hnflow hservice hmethod)

theorem exists_stem_of_clashes (h : Clashes s t) : ∃ e a,
    ExportedStem s e a ∧ ExportedStem t e a ∨ UnexportedStem s e a ∧ UnexportedStem t e a := by
  cases h with
  | register h => exact ⟨_, _, Or.inl ⟨.registerFunction, h ▸ .serviceInterface⟩⟩
  | constructor ht h => exact ⟨_, _, Or.inl ⟨.clientConstructor, h ▸ .clientInterface ht⟩⟩
  | method hm hflow ht h =>
    exact ⟨_, _, Or.inl ⟨.streamInterface hm hflow .client, h ▸ .clientInterface ht⟩⟩
  | methodConstructor hm hflow h =>
    exact ⟨_, _, Or.inl ⟨.streamInterface hm hflow .client, h ▸ .clientConstructor⟩⟩
  | methods hm hmflow hn hnflow h =>
    exact ⟨_, _, Or.inl ⟨.streamInterface hm hmflow .client,
      h ▸ .streamInterface hn hnflow .client⟩⟩
  | struct hm hflow h =>
    exact ⟨_, _, Or.inr ⟨.streamWrapper hm hflow .client, h ▸ .clientStruct⟩⟩
  | wrappers hm hmflow hn hnflow hservice hmethod =>
    exact ⟨_, _, Or.inr ⟨.streamWrapper hm hmflow .client,
      hservice ▸ hmethod ▸ .streamWrapper hn hnflow .client⟩⟩

/-- Two services of different names share a name exactly if they clash, one way or the other. -/
theorem exists_shared_iff (hs : HasExportedNames s) (ht : HasExportedNames t)
    (hne : s.goName ≠ t.goName) :
    (∃ name ∈ topLevelNames s, name ∈ topLevelNames t) ↔ Clashes s t ∨ Clashes t s := by
  rw [exists_mem_topLevelNames_iff hs.service ht.service]
  constructor
  · rintro ⟨e, a, ⟨ha, hb⟩ | ⟨ha, hb⟩⟩
    · exact clashes_of_exportedStem hne ha hb rfl
    · exact clashes_of_unexportedStem hs ht hne ha hb rfl
  · rintro (h | h)
    · exact exists_stem_of_clashes h
    · obtain ⟨e, a, ⟨ha, hb⟩ | ⟨ha, hb⟩⟩ := exists_stem_of_clashes h
      · exact ⟨e, a, Or.inl ⟨hb, ha⟩⟩
      · exact ⟨e, a, Or.inr ⟨hb, ha⟩⟩

end

/-! ## Described services -/

/-- Whether all services and methods of a description have names that protobuf accepts. -/
def HasProtoNames (f : Proto.File) : Prop :=
  ∀ p ∈ f.services, isProtoIdentifier p.name = true ∧
    ∀ q ∈ p.methods, isProtoIdentifier q.name = true

theorem hasExportedNames_of_ofProto {scope : Scope} {f : Proto.File} {file : File}
    (hfile : File.ofProto scope f = .ok file) (hnames : HasProtoNames f) {s : Service}
    (hs : s ∈ file.services) : HasExportedNames s := by
  obtain ⟨p, hp, hservice⟩ := File.exists_describes_of_ofProto hfile hs
  constructor
  · rw [hservice.goName]
    exact isExportedIdentifier_exportedName (hnames p hp).1
  · intro m hm
    obtain ⟨q, hq, hmethod⟩ := exists_of_mem_forall₂ hservice.methods hm
    rw [hmethod.goName]
    exact isExportedIdentifier_exportedName ((hnames p hp).2 q hq)

/-- **Top-level names.** Whatever their files import already, the stubs of two services of a
described file that have different Go names declare a name in common if and only if the services
clash. -/
theorem emits_clashing_iff (scope : Scope) (f : Proto.File) (file : File) (s t : Service)
    (imports imports' : Imports) (hfile : File.ofProto scope f = .ok file)
    (hnames : HasProtoNames f) (hs : s ∈ file.services) (ht : t ∈ file.services)
    (hne : s.goName ≠ t.goName) :
    ∃ text after text' after', Emits imports s text after ∧ Emits imports' t text' after' ∧
      ((∃ name ∈ topLevelNames s, name ∈ topLevelNames t) ↔ Clashes s t ∨ Clashes t s) := by
  obtain ⟨text, after, hemits⟩ := emits imports s
  obtain ⟨text', after', hemits'⟩ := emits imports' t
  exact ⟨text, after, text', after', hemits, hemits',
    exists_shared_iff (hasExportedNames_of_ofProto hfile hnames hs)
      (hasExportedNames_of_ofProto hfile hnames ht) hne⟩

/-! ## An example -/

/-- The description of two services of which one is named like a method of the other. -/
def chatProto : Proto.File where
  name? := some "chat.proto"
  package? := some "chat"
  options? := some ⟨some "example.com/chat"⟩
  messages := [⟨some "Line", []⟩]
  services :=
    [⟨some "Chat", [⟨some "Room", some ".chat.Line", some ".chat.Line", some true, some true⟩]⟩,
     ⟨some "ChatRoom", [⟨some "Open", some ".chat.Line", some ".chat.Line", none, none⟩]⟩]

/-- What the names in this description refer to. -/
def chatScope : Scope where
  messages := .ofFiles [chatProto]
  packages := .ofList [("chat.proto", ⟨"example.com/chat", "chat"⟩)]

/-- The service with the stream. -/
def chat : Service where
  fullName := "chat.Chat"
  goName := "Chat"
  methods :=
    [⟨"Room", "Room", ⟨"example.com/chat", "Line"⟩, ⟨"example.com/chat", "Line"⟩, true, true⟩]

/-- The service that is named like it. -/
def chatRoom : Service where
  fullName := "chat.ChatRoom"
  goName := "ChatRoom"
  methods :=
    [⟨"Open", "Open", ⟨"example.com/chat", "Line"⟩, ⟨"example.com/chat", "Line"⟩, false, false⟩]

/-- The file that is described. -/
def chatFile : File := ⟨"chat.proto", ⟨"example.com/chat", "chat"⟩, [chat, chatRoom]⟩

theorem ofProto_chatProto : File.ofProto chatScope chatProto = .ok chatFile := by rfl

theorem hasProtoNames_chatProto : HasProtoNames chatProto := by
  unfold HasProtoNames
  decide

theorem emits_clashing_iff_chat :
    File.ofProto chatScope chatProto = .ok chatFile ∧ HasProtoNames chatProto ∧
      chat ∈ chatFile.services ∧ chatRoom ∈ chatFile.services ∧ chat.goName ≠ chatRoom.goName ∧
      ∃ text after text' after', Emits mailImports chat text after ∧
        Emits mailImports chatRoom text' after' ∧
        ((∃ name ∈ topLevelNames chat, name ∈ topLevelNames chatRoom) ↔
          Clashes chat chatRoom ∨ Clashes chatRoom chat) :=
  ⟨ofProto_chatProto, hasProtoNames_chatProto, by decide, by decide, by decide,
    emits_clashing_iff chatScope chatProto chatFile chat chatRoom mailImports mailImports
      ofProto_chatProto hasProtoNames_chatProto (by decide) (by decide) (by decide)⟩

/-- Both services declare a structure `chatRoomClient`, one for its stream and one for its client. -/
theorem not_forall_topLevelNames_disjoint :
    ¬ ∀ (scope : Scope) (f : Proto.File) (file : File) (s t : Service)
        (imports imports' : Imports),
      File.ofProto scope f = .ok file → HasProtoNames f → s ∈ file.services → t ∈ file.services →
      s.goName ≠ t.goName → (s.methods.map (·.goName)).Nodup → (t.methods.map (·.goName)).Nodup →
      ∃ text after text' after', Emits imports s text after ∧ Emits imports' t text' after' ∧
        ∀ name ∈ topLevelNames s, name ∉ topLevelNames t := by
  intro h
  obtain ⟨-, -, -, -, -, -, hdisjoint⟩ := h chatScope chatProto chatFile chat chatRoom mailImports
    mailImports ofProto_chatProto hasProtoNames_chatProto (by decide) (by decide) (by decide)
    (by decide) (by decide)
  exact hdisjoint "chatRoomClient" (by decide +kernel) (by decide +kernel)

end GoStubs.Stub
