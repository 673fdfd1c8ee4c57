import GoStubs.Proofs.Wire.Token
/-!
# Reading from the front

Every reader takes a value off the front of the bytes and pays no attention to what follows:
whatever stands behind the value, it reads the same one. So bytes that are a sequence of tokens
remain one when others are added behind them.

* `ReadsFront`: what it means for a reader, and one lemma for each reader of the format.
* `tokens_append`: the tokens of two byte strings, one after the other.
* `tokens_eq_some_cons_iff`: the first token and those after it.
-/

namespace GoStubs.Wire

/-- Whether a reader takes what it reads off the front: it reads the same whatever follows. -/
def ReadsFront {α : Type} (read : List UInt8 → Option (α × List UInt8)) : Prop :=
  ∀ ⦃bytes rest : List UInt8⦄ ⦃value : α⦄, read bytes = some (value, rest) →
    ∃ front, bytes = front ++ rest ∧ ∀ rest', read (front ++ rest') = some (value, rest')

theorem ReadsFront.append {α : Type} {read : List UInt8 → Option (α × List UInt8)}
    (hread : ReadsFront read) {bytes rest : List UInt8} {value : α}
    (h : read bytes = some (value, rest)) (more : List UInt8) :
    read (bytes ++ more) = some (value, rest ++ more) := by
  obtain ⟨front, rfl, hfront⟩ := hread h
  rw [List.append_assoc, hfront]

/-! ## Readers -/

theorem readsFront_readVarintWithin (left : Nat) : ReadsFront (readVarintWithin left) := by
  induction left with
  | zero =>
    intro bytes rest n h
    simp [readVarintWithin] at h
  | succ left ih =>
    intro bytes rest n h
    cases bytes with
    | nil => simp [readVarintWithin] at h
    | cons b bytes =>
      rw [readVarintWithin] at h
      split at h
      · next hlast =>
        split at h
        · cases h
        · next hfits =>
          obtain ⟨rfl, rfl⟩ := Prod.mk.inj (Option.some.inj h)
          refine ⟨[b], rfl, fun rest' => ?_⟩
          rw [List.singleton_append, readVarintWithin, if_pos hlast, if_neg hfits]
      · next hmore =>
        split at h
        · next m rest₁ hread =>
          obtain ⟨rfl, rfl⟩ := Prod.mk.inj (Option.some.inj h)
          obtain ⟨front, rfl, hfront⟩ := ih hread
          refine ⟨b :: front, rfl, fun rest' => ?_⟩
          rw [List.cons_append, readVarintWithin, if_neg hmore, hfront]
        · cases h

theorem readsFront_readVarint : ReadsFront readVarint := readsFront_readVarintWithin _

theorem readsFront_takeExactly (n : Nat) : ReadsFront (takeExactly n) := by
  intro bytes rest taken h
  obtain ⟨rfl, rfl⟩ := takeExactly_eq_some_iff.mp h
  exact ⟨taken, rfl, fun rest' => takeExactly_append taken rest'⟩

theorem readsFront_readDelimited : ReadsFront readDelimited := by
  intro bytes rest taken h
  rw [readDelimited] at h
  split at h
  · next n rest₁ hlength =>
    obtain ⟨length, rfl, hfront⟩ := readsFront_readVarint hlength
    obtain ⟨rfl, rfl⟩ := takeExactly_eq_some_iff.mp h
    refine ⟨length ++ taken, (List.append_assoc ..).symm, fun rest' => ?_⟩
    rw [readDelimited, List.append_assoc, hfront]
    exact takeExactly_append taken rest'
  · cases h

/-- What is read remains what it is if it is put to use. -/
theorem ReadsFront.map {α β : Type} {read : List UInt8 → Option (α × List UInt8)}
    (hread : ReadsFront read) (f : α → β) :
    ReadsFront fun bytes => (read bytes).map fun (value, rest) => (f value, rest) := by
  intro bytes rest value h
  obtain ⟨⟨value₁, rest₁⟩, hfirst, hpair⟩ := Option.map_eq_some_iff.mp h
  obtain ⟨rfl, rfl⟩ := Prod.mk.inj hpair
  obtain ⟨front, rfl, hfront⟩ := hread hfirst
  exact ⟨front, rfl, fun rest' => by simp only [hfront, Option.map_some]⟩

theorem readsFront_readValue (wireType : Nat) : ReadsFront (TokenValue.read wireType) := by
  match wireType with
  | 0 => exact readsFront_readVarint.map TokenValue.varint
  | 1 => exact (readsFront_takeExactly 8).map TokenValue.fixed64
  | 2 => exact readsFront_readDelimited.map TokenValue.delimited
  | 5 => exact (readsFront_takeExactly 4).map TokenValue.fixed32
  | 3 | 4 =>
    intro bytes rest value h
    obtain ⟨rfl, rfl⟩ := Prod.mk.inj (Option.some.inj h)
    exact ⟨[], rfl, fun _ => rfl⟩
  | _ + 6 =>
    intro bytes rest value h
    cases h

theorem readsFront_readKey : ReadsFront readKey := by
  intro bytes rest key h
  rw [readKey] at h
  split at h
  · next n rest₁ hread =>
    split at h
    · next hkey =>
      obtain ⟨rfl, rfl⟩ := Prod.mk.inj (Option.some.inj h)
      obtain ⟨front, rfl, hfront⟩ := readsFront_readVarint hread
      refine ⟨front, rfl, fun rest' => ?_⟩
      simp only [readKey, hfront]
      rw [if_pos hkey]
    · cases h
  · cases h

/-- A token is a key with its value, one behind the other. -/
theorem read_eq_some_iff {bytes rest : List UInt8} {t : Token} :
    Token.read bytes = some (t, rest) ↔ ∃ wireType mid,
      readKey bytes = some ((t.number, wireType), mid) ∧
        TokenValue.read wireType mid = some (t.value, rest) := by
  rw [Token.read]
  cases readKey bytes with
  | none => simp
  | some key =>
    obtain ⟨⟨number, wireType⟩, mid⟩ := key
    simp only [Option.map_eq_some_iff, Prod.exists, Prod.mk.injEq, Option.some.injEq]
    constructor
    · rintro ⟨value, rest₁, hvalue, rfl, rfl⟩
      exact ⟨wireType, mid, ⟨⟨rfl, rfl⟩, rfl⟩, hvalue⟩
    · rintro ⟨_, _, ⟨⟨rfl, rfl⟩, rfl⟩, hvalue⟩
      exact ⟨t.value, rest, hvalue, rfl, rfl⟩

theorem readsFront_read : ReadsFront Token.read := by
  intro bytes rest t h
  obtain ⟨wireType, mid, hkey, hvalue⟩ := read_eq_some_iff.mp h
  obtain ⟨key, rfl, hkeyFront⟩ := readsFront_readKey hkey
  obtain ⟨value, rfl, hvalueFront⟩ := readsFront_readValue wireType hvalue
  refine ⟨key ++ value, (List.append_assoc ..).symm, fun rest' => ?_⟩
  rw [List.append_assoc]
  exact read_eq_some_iff.mpr ⟨wireType, value ++ rest', hkeyFront _, hvalueFront _⟩

/-! ## Tokens -/

section

variable {bytes rest more : List UInt8} {t : Token} {ts : List Token}

@[simp] theorem tokens_nil : tokens [] = some [] := rfl

theorem tokens_eq_some_nil_iff : tokens bytes = some [] ↔ bytes = [] := by
  constructor
  · intro h
    cases bytes with
    | nil => rfl
    | cons b bytes =>
      cases hread : Token.read (b :: bytes) with
      | none => simp [tokens_of_read_eq_none hread] at h
      | some first =>
        obtain ⟨t, rest⟩ := first
        simp [tokens_of_read hread] at h
  · rintro rfl
    rfl

/-- The first token of a message, and those after it. -/
theorem tokens_eq_some_cons_iff : tokens bytes = some (t :: ts) ↔
    ∃ rest, Token.read bytes = some (t, rest) ∧ tokens rest = some ts := by
  constructor
  · intro h
    cases hread : Token.read bytes with
    | none =>
      by_cases hne : bytes = []
      · simp [hne] at h
      · simp [tokens_of_read_eq_none hread hne] at h
    | some first =>
      obtain ⟨t₁, rest⟩ := first
      rw [tokens_of_read hread, Option.map_eq_some_iff] at h
      obtain ⟨us, hrest, hcons⟩ := h
      obtain ⟨rfl, rfl⟩ := List.cons.inj hcons
      exact ⟨rest, rfl, hrest⟩
  · rintro ⟨rest, hread, hrest⟩
    rw [tokens_of_read hread, hrest, Option.map_some]

/-- The tokens of two byte strings, one after the other. -/
theorem tokens_append (h : tokens bytes = some ts) (more : List UInt8) :
    tokens (bytes ++ more) = (tokens more).map (ts ++ ·) := by
  induction ts generalizing bytes with
  | nil =>
    obtain rfl := tokens_eq_some_nil_iff.mp h
    simp
  | cons t ts ih =>
    obtain ⟨rest, hread, hrest⟩ := tokens_eq_some_cons_iff.mp h
    rw [tokens_of_read (readsFront_read.append hread more), ih hrest, Option.map_map]
    rfl

end

end GoStubs.Wire
