import GoStubs.Stub.Names
/-!
# Names that do not clash

The declared names of one service that have to be told apart when its stub is read: the two ends
of a stream by their last word, methods by what stands between the service's name and that word,
and the service's own declarations from those of its streams.

* `streamInterface_inj`, `streamWrapper_inj`: a stream type names its method and its side.
* `streamWrapper_ne_clientStruct`: a handle is no client, unless its method has no name.
-/

namespace GoStubs.Stub

open GoStubs.Rpc GoStubs.Text GoStubs.Unicode

/-- Texts that end in parts of one length are equal only part by part. -/
theorem append_inj_of_length {a b c d : String} (h : a ++ c = b ++ d)
    (hl : c.length = d.length) : a = b ∧ c = d := by
  have hcs : a.toList ++ c.toList = b.toList ++ d.toList := by
    rw [← String.toList_append, ← String.toList_append, h]
  have hlen : c.toList.length = d.toList.length := by
    rw [String.length_toList, String.length_toList, hl]
  obtain ⟨hab, hcd⟩ := List.append_inj' hcs hlen
  exact ⟨String.toList_inj.mp hab, String.toList_inj.mp hcd⟩

theorem length_pos_of_ne_empty {s : String} (h : s ≠ "") : 0 < s.length := by
  rw [← String.length_toList]
  exact List.length_pos_iff.mpr fun hnil => h (String.toList_inj.mp hnil)

/-! ## Stream types -/

theorem length_sideSuffix (side : Side) : (sideSuffix side).length = 6 := by
  cases side <;> rfl

theorem sideSuffix_inj {side side' : Side} (h : sideSuffix side = sideSuffix side') :
    side = side' := by
  cases side <;> cases side' <;> first | rfl | exact absurd h (by decide)

/-- What stands before the method's name is the same in all stream types of a service. -/
theorem append_sideSuffix_inj {service method method' : String} {side side' : Side} :
    service ++ method ++ sideSuffix side = service ++ method' ++ sideSuffix side' ↔
      method = method' ∧ side = side' := by
  constructor
  · intro h
    obtain ⟨hm, hs⟩ := append_inj_of_length h (by rw [length_sideSuffix, length_sideSuffix])
    exact ⟨(String.append_right_inj _).mp hm, sideSuffix_inj hs⟩
  · rintro ⟨rfl, rfl⟩
    rfl

theorem streamInterface_inj {service method method' : String} {side side' : Side} :
    streamInterface service method side = streamInterface service method' side' ↔
      method = method' ∧ side = side' := append_sideSuffix_inj

theorem streamWrapper_inj {service method method' : String} {side side' : Side} :
    streamWrapper service method side = streamWrapper service method' side' ↔
      method = method' ∧ side = side' := append_sideSuffix_inj

/-! ## The interfaces of a service -/

theorem clientInterface_ne_serviceInterface (service : String) :
    clientInterface service ≠ serviceInterface service := by
  intro h
  exact absurd ((String.append_right_inj service).mp h) (by decide)

/-- An underscore follows the service's name in the interface of a handle. -/
theorem streamInterface_ne (service method : String) (side : Side) {word : String}
    (hword : word.toList.head? ≠ some '_') :
    streamInterface service method side ≠ service ++ word := by
  intro h
  have hm : "_" ++ (method ++ sideSuffix side) = word := by
    rw [streamInterface, String.append_assoc, String.append_assoc] at h
    exact (String.append_right_inj service).mp h
  exact hword (by simp [← hm])

theorem streamInterface_ne_serviceInterface (service method : String) (side : Side) :
    streamInterface service method side ≠ serviceInterface service :=
  streamInterface_ne service method side (by decide)

theorem streamInterface_ne_clientInterface (service method : String) (side : Side) :
    streamInterface service method side ≠ clientInterface service :=
  streamInterface_ne service method side (by decide)

/-! ## Functions -/

theorem registerFunction_ne_clientConstructor (service service' : String) :
    registerFunction service ≠ clientConstructor service' := by
  intro h
  have hc := congrArg (fun t : String => t.toList.head?) h
  simp [registerFunction, clientConstructor] at hc

/-! ## Structures -/

theorem lowerChar_ne_nil (c : Char) : lowerChar c ≠ [] := by
  unfold lowerChar
  split
  · simp
  · split
    · simp
    · split <;> simp

/-- A text does not get shorter in lower case. -/
theorem length_le_length_lowerFrom (cs : List Char) :
    ∀ before, cs.length ≤ (lowerFrom before cs).length := by
  induction cs with
  | nil => simp
  | cons c cs ih =>
    intro before
    have hc : 0 < (if c = 'Σ' then [lowerSigma before cs] else lowerChar c).length := by
      split
      · simp
      · exact List.length_pos_iff.mpr (lowerChar_ne_nil c)
    have hcs := ih (c :: before)
    rw [lowerFrom, List.length_append, List.length_cons]
    omega

theorem length_le_length_lower (s : String) : s.length ≤ (lower s).length := by
  rw [lower, String.length_ofList, ← String.length_toList]
  exact length_le_length_lowerFrom _ _

theorem lowerFrom_of_isAscii (cs : List Char) :
    ∀ before, (∀ c ∈ cs, isAscii c = true) → lowerFrom before cs = cs.map Char.toLower := by
  induction cs with
  | nil => exact fun _ _ => rfl
  | cons c cs ih =>
    intro before h
    obtain ⟨hc, hcs⟩ := List.forall_mem_cons.mp h
    have hsigma : c ≠ 'Σ' := fun heq => absurd hc (by rw [heq]; decide)
    rw [lowerFrom, if_neg hsigma, lowerChar_of_isAscii hc, ih _ hcs]
    rfl

theorem toList_lower_of_isAscii {s : String} (h : ∀ c ∈ s.toList, isAscii c = true) :
    (lower s).toList = s.toList.map Char.toLower := by
  rw [lower, String.toList_ofList, lowerFrom_of_isAscii _ _ h]

theorem length_decapitalize (s : String) : (decapitalize s).length = s.length := by
  rw [← String.length_toList (s := s)]
  unfold decapitalize
  cases s.toList with
  | nil => rfl
  | cons c cs => simp [Nat.add_comm]

/-- The structure behind a handle is longer than the client's by the name of its method, at
least. -/
theorem streamWrapper_ne_clientStruct (service : String) {method : String} (side : Side)
    (hm : method ≠ "") : streamWrapper service method side ≠ clientStruct service := by
  intro h
  have hlen := congrArg String.length h
  have hlow := length_le_length_lower service
  have hpos := length_pos_of_ne_empty hm
  have hword : "Client".length = 6 := rfl
  rw [streamWrapper, clientStruct, length_decapitalize, clientInterface, String.length_append,
    String.length_append, String.length_append, length_sideSuffix, hword] at hlen
  omega

end GoStubs.Stub
