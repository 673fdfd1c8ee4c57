import GoStubs.Proofs.Wire.Varint
import GoStubs.Wire.Encode
import GoStubs.Wire.Record
/-!
# Tokens are read back

A token has one written form in which the numbers take their shortest form. It is read back
whatever follows it, unless a number in it does not fit into 64 bits: the value itself or the
number of the bytes that follow. Since reading takes at least one byte, a message can be read token
by token, and where a token belongs to no group, record by record.

* `Token.encode`: the written form of a token.
* `Token.read_encode`, `Token.read_encode_of_not_measured`: both outcomes of reading it.
* `records_of_read`, `records_of_read_eq_none`: the records of a message, from its first token on.
-/

namespace GoStubs.Wire

/-! ## Written forms -/

/-- The way of writing a value that its key announces. -/
def TokenValue.wireType : TokenValue → Nat
  | varint _ => 0
  | fixed64 _ => 1
  | delimited _ => 2
  | groupStart => 3
  | groupEnd => 4
  | fixed32 _ => 5

/-- The bytes of a value. -/
def TokenValue.encode : TokenValue → List UInt8
  | varint n => encodeVarint n
  | fixed64 bytes | fixed32 bytes => bytes
  | delimited bytes => encodeDelimited bytes
  | groupStart | groupEnd => []

/-- The bytes of a token. -/
def Token.encode (t : Token) : List UInt8 := encodeKey t.number t.value.wireType ++ t.value.encode

/-- Whether a value of a fixed size has that size. -/
def TokenValue.Sized : TokenValue → Prop
  | fixed64 bytes => bytes.length = 8
  | fixed32 bytes => bytes.length = 4
  | varint _ | delimited _ | groupStart | groupEnd => True

/-- Whether the number that is written for a value, if any, fits into 64 bits. -/
def TokenValue.Measured : TokenValue → Prop
  | varint n => n < 2 ^ 64
  | delimited bytes => bytes.length < 2 ^ 64
  | fixed64 _ | fixed32 _ | groupStart | groupEnd => True

/-- Whether a key can hold a field number. -/
def IsFieldNumber (number : Nat) : Prop := 0 < number ∧ number < 2 ^ 29

theorem TokenValue.wireType_lt (value : TokenValue) : value.wireType < 8 := by
  cases value <;> simp [wireType]

/-! ## Reading them -/

theorem takeExactly_append (bytes rest : List UInt8) :
    takeExactly bytes.length (bytes ++ rest) = some (bytes, rest) := by
  simp [takeExactly]

theorem takeExactly_eq_some_iff {n : Nat} {bytes taken rest : List UInt8} :
    takeExactly n bytes = some (taken, rest) ↔ bytes = taken ++ rest ∧ taken.length = n := by
  constructor
  · intro h
    simp only [takeExactly] at h
    split at h
    · next hlength =>
      simp only [Option.some.injEq, Prod.mk.injEq] at h
      rw [← h.1, ← h.2, List.take_append_drop]
      exact ⟨rfl, hlength⟩
    · simp at h
  · intro h
    rw [h.1, ← h.2, takeExactly_append]

theorem readDelimited_encodeDelimited (bytes rest : List UInt8) (h : bytes.length < 2 ^ 64) :
    readDelimited (encodeDelimited bytes ++ rest) = some (bytes, rest) := by
  rw [readDelimited, encodeDelimited, List.append_assoc, readVarint_encodeVarint _ _ h]
  exact takeExactly_append bytes rest

theorem readDelimited_encodeDelimited_of_le (bytes rest : List UInt8) (h : 2 ^ 64 ≤ bytes.length) :
    readDelimited (encodeDelimited bytes ++ rest) = none := by
  rw [readDelimited, encodeDelimited, List.append_assoc, readVarint_encodeVarint_of_le _ _ h]

theorem readKey_encodeKey {number wireType : Nat} (hnumber : IsFieldNumber number)
    (hwireType : wireType < 8) (rest : List UInt8) :
    readKey (encodeKey number wireType ++ rest) = some ((number, wireType), rest) := by
  obtain ⟨hpos, hlt⟩ := hnumber
  have hkey : 8 * number + wireType < 2 ^ 64 := by omega
  have hlimit : 8 * number + wireType < keyLimit := by
    rw [keyLimit]
    omega
  have hdiv : (8 * number + wireType) / 8 = number := by omega
  have hmod : (8 * number + wireType) % 8 = wireType := by omega
  simp only [readKey, encodeKey, readVarint_encodeVarint _ _ hkey, hdiv, hmod]
  rw [if_pos]
  simp [hlimit, Nat.pos_iff_ne_zero.mp hpos]

theorem TokenValue.read_encode {value : TokenValue} (hsized : value.Sized)
    (hmeasured : value.Measured) (rest : List UInt8) :
    TokenValue.read value.wireType (value.encode ++ rest) = some (value, rest) := by
  cases value with
  | varint n => simp [read, wireType, encode, readVarint_encodeVarint n rest hmeasured]
  | fixed64 bytes =>
    have htake : takeExactly 8 (bytes ++ rest) = some (bytes, rest) :=
      takeExactly_eq_some_iff.mpr ⟨rfl, hsized⟩
    simp [read, wireType, encode, htake]
  | delimited bytes =>
    simp [read, wireType, encode, readDelimited_encodeDelimited bytes rest hmeasured]
  | groupStart | groupEnd => rfl
  | fixed32 bytes =>
    have htake : takeExactly 4 (bytes ++ rest) = some (bytes, rest) :=
      takeExactly_eq_some_iff.mpr ⟨rfl, hsized⟩
    simp [read, wireType, encode, htake]

theorem TokenValue.read_encode_of_not_measured {value : TokenValue} (h : ¬ value.Measured)
    (rest : List UInt8) : TokenValue.read value.wireType (value.encode ++ rest) = none := by
  cases value with
  | varint n =>
    simp [read, wireType, encode, readVarint_encodeVarint_of_le n rest (Nat.le_of_not_lt h)]
  | delimited bytes =>
    have hread := readDelimited_encodeDelimited_of_le bytes rest (Nat.le_of_not_lt h)
    simp [read, wireType, encode, hread]
  | fixed64 _ | groupStart | groupEnd | fixed32 _ => exact absurd trivial h

/-- A token is read back, whatever follows it. -/
theorem Token.read_encode {t : Token} (hnumber : IsFieldNumber t.number) (hsized : t.value.Sized)
    (hmeasured : t.value.Measured) (rest : List UInt8) :
    Token.read (t.encode ++ rest) = some (t, rest) := by
  rw [Token.read, Token.encode, List.append_assoc, readKey_encodeKey hnumber t.value.wireType_lt]
  simp only [TokenValue.read_encode hsized hmeasured, Option.map_some]

/-- A token is refused if a number in it does not fit into 64 bits. -/
theorem Token.read_encode_of_not_measured {t : Token} (hnumber : IsFieldNumber t.number)
    (h : ¬ t.value.Measured) (rest : List UInt8) : Token.read (t.encode ++ rest) = none := by
  rw [Token.read, Token.encode, List.append_assoc, readKey_encodeKey hnumber t.value.wireType_lt]
  simp only [TokenValue.read_encode_of_not_measured h, Option.map_none]

/-! ## One token after the other -/

section

variable {bytes rest : List UInt8} {t : Token}

theorem length_lt_of_readVarint {n : Nat} (h : readVarint bytes = some (n, rest)) :
    rest.length < bytes.length :=
  length_lt_of_readVarintWithin h

theorem length_le_of_takeExactly {n : Nat} {taken : List UInt8}
    (h : takeExactly n bytes = some (taken, rest)) : rest.length ≤ bytes.length := by
  rw [(takeExactly_eq_some_iff.mp h).1, List.length_append]
  omega

theorem length_le_of_readDelimited {taken : List UInt8}
    (h : readDelimited bytes = some (taken, rest)) : rest.length ≤ bytes.length := by
  simp only [readDelimited] at h
  split at h
  · next hread =>
    have hlt := length_lt_of_readVarint hread
    have hle := length_le_of_takeExactly h
    omega
  · simp at h

theorem length_le_of_readValue {wireType : Nat} {value : TokenValue}
    (h : TokenValue.read wireType bytes = some (value, rest)) : rest.length ≤ bytes.length := by
  simp only [TokenValue.read] at h
  split at h
  case h_1 =>
    obtain ⟨_, hread, hpair⟩ := Option.map_eq_some_iff.mp h
    obtain ⟨-, rfl⟩ := Prod.mk.inj hpair
    exact Nat.le_of_lt (length_lt_of_readVarint hread)
  case h_2 | h_6 =>
    obtain ⟨_, hread, hpair⟩ := Option.map_eq_some_iff.mp h
    obtain ⟨-, rfl⟩ := Prod.mk.inj hpair
    exact length_le_of_takeExactly hread
  case h_3 =>
    obtain ⟨_, hread, hpair⟩ := Option.map_eq_some_iff.mp h
    obtain ⟨-, rfl⟩ := Prod.mk.inj hpair
    exact length_le_of_readDelimited hread
  case h_4 | h_5 =>
    obtain ⟨-, rfl⟩ := Prod.mk.inj (Option.some.inj h)
    exact Nat.le_refl _
  case h_7 => simp at h

theorem length_lt_of_readKey {key : Nat × Nat} (h : readKey bytes = some (key, rest)) :
    rest.length < bytes.length := by
  simp only [readKey] at h
  split at h
  · next hread =>
    split at h
    · obtain ⟨-, rfl⟩ := Prod.mk.inj (Option.some.inj h)
      exact length_lt_of_readVarint hread
    · simp at h
  · simp at h

/-- Reading a token takes at least one byte. -/
theorem length_lt_of_read (h : Token.read bytes = some (t, rest)) : rest.length < bytes.length := by
  simp only [Token.read] at h
  split at h
  · next hkey =>
    obtain ⟨_, hvalue, hpair⟩ := Option.map_eq_some_iff.mp h
    obtain ⟨-, rfl⟩ := Prod.mk.inj hpair
    exact Nat.lt_of_le_of_lt (length_le_of_readValue hvalue) (length_lt_of_readKey hkey)
  · simp at h

/-- It does not matter how many tokens are allowed, if they are as many as there are bytes. -/
theorem tokensWithin_eq_tokens (fuel : Nat) (h : bytes.length ≤ fuel) :
    tokensWithin fuel bytes = tokens bytes := by
  rw [tokens]
  -- Both sides are compared at once, so that the rest after a token may have any two allowances.
  suffices heq : ∀ fuel' : Nat, bytes.length ≤ fuel' →
      tokensWithin fuel bytes = tokensWithin fuel' bytes from heq _ (Nat.le_refl _)
  induction fuel generalizing bytes with
  | zero =>
    obtain rfl := List.eq_nil_of_length_eq_zero (Nat.le_zero.mp h)
    intro fuel' _
    cases fuel' <;> rfl
  | succ fuel ih =>
    intro fuel' h'
    cases bytes with
    | nil => cases fuel' <;> rfl
    | cons b bytes =>
      cases fuel' with
      | zero => simp at h'
      | succ fuel' =>
        simp only [tokensWithin]
        split
        · next hread =>
          have hlt := length_lt_of_read hread
          simp only [List.length_cons] at h h' hlt
          rw [ih (by omega) fuel' (by omega)]
        · rfl

/-- The first token of a message, and those after it. -/
theorem tokens_of_read (h : Token.read bytes = some (t, rest)) :
    tokens bytes = (tokens rest).map (t :: ·) := by
  have hlt := length_lt_of_read h
  cases bytes with
  | nil => simp at hlt
  | cons b bytes =>
    rw [List.length_cons] at hlt
    rw [tokens, List.length_cons, tokensWithin, h]
    simp only [tokensWithin_eq_tokens _ (Nat.le_of_lt_succ hlt)]

/-- A message is refused if there is no token at its start. -/
theorem tokens_of_read_eq_none (h : Token.read bytes = none) (hne : bytes ≠ []) :
    tokens bytes = none := by
  cases bytes with
  | nil => exact absurd rfl hne
  | cons b bytes => rw [tokens, List.length_cons, tokensWithin, h]

/-! ## One record after the other -/

/-- A token that belongs to no group is a record by itself. -/
theorem collect_plain {payload : Payload} {ts : List Token}
    (hpayload : t.value.payload? = some payload) :
    collect [] 0 (t :: ts) = (collect [] 0 ts).map (⟨t.number, payload⟩ :: ·) := by
  rw [collect]
  -- Only the two marks of a group are treated differently, and they have no payload.
  cases hvalue : t.value with
  | groupStart | groupEnd => simp [hvalue, TokenValue.payload?] at hpayload
  | _ =>
    rw [hvalue] at hpayload
    simp only [hpayload]
    cases collect [] 0 ts <;> rfl

/-- At the start of a message it is the first record. -/
theorem records_of_read {payload : Payload} (h : Token.read bytes = some (t, rest))
    (hpayload : t.value.payload? = some payload) :
    records bytes = (records rest).map (⟨t.number, payload⟩ :: ·) := by
  rw [records, tokens_of_read h, records]
  cases tokens rest with
  | none => rfl
  | some ts => exact collect_plain hpayload

theorem records_of_read_eq_none (h : Token.read bytes = none) (hne : bytes ≠ []) :
    records bytes = none := by
  rw [records, tokens_of_read_eq_none h hne, Option.bind_none]

end

end GoStubs.Wire
