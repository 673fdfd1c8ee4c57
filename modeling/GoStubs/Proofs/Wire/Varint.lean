import GoStubs.Wire.Varint
import Mathlib.Algebra.Group.Nat.Defs
/-!
# Variable-length numbers are read back

Each byte of a written number but the last holds seven bits, so a number below `2 * 128 ^ k` takes
at most `k + 1` bytes; ten of them hold every number of 64 bits, and no other.

* `readVarint_encodeVarint`: a number is read back, and the bytes after it are left alone.
* `readVarint_encodeVarint_of_le`: a number that does not fit into 64 bits is refused.
* `readVarints_flatMap_encodeVarint`: numbers one after the other are read back.
-/

namespace GoStubs.Wire

/-! ## The bytes of a number -/

theorem toNat_toUInt8 {n : Nat} (h : n < 256) : n.toUInt8.toNat = n := by
  rw [Nat.toUInt8, UInt8.toNat_ofNat']
  omega

/-- The byte of seven bits that are not the last ones has its top bit set. -/
theorem not_continuation_lt (n : Nat) : ¬ (n % 128 + 128).toUInt8 < 128 := by
  have hb : (n % 128 + 128).toUInt8.toNat = n % 128 + 128 := toNat_toUInt8 (by omega)
  rw [UInt8.lt_iff_toNat_lt, hb]
  change ¬ (n % 128 + 128 < 128)
  omega

theorem encodeVarint_ne_nil (n : Nat) : encodeVarint n ≠ [] := by
  rw [encodeVarint]
  split <;> simp

theorem readVarintWithin_encodeVarint (k n : Nat) (rest : List UInt8) (h : n < 2 * 128 ^ k) :
    readVarintWithin (k + 1) (encodeVarint n ++ rest) = some (n, rest) := by
  induction k generalizing n with
  | zero =>
    have hn : n = 0 ∨ n = 1 := by omega
    rcases hn with rfl | rfl <;> simp [encodeVarint, readVarintWithin]
  | succ k ih =>
    rw [encodeVarint]
    split
    · next hn =>
      have hb : n.toUInt8.toNat = n := toNat_toUInt8 (by omega)
      have hlt : n.toUInt8 < 128 := by
        rw [UInt8.lt_iff_toNat_lt, hb]
        exact hn
      simp [readVarintWithin, hlt, hb]
    · next hn =>
      have hb : (n % 128 + 128).toUInt8.toNat = n % 128 + 128 := toNat_toUInt8 (by omega)
      have hdiv : n / 128 < 2 * 128 ^ k := by
        rw [pow_succ] at h
        omega
      rw [List.cons_append, readVarintWithin, if_neg (not_continuation_lt n), ih _ hdiv, hb]
      simp only [Option.some.injEq, Prod.mk.injEq, and_true]
      omega

/-- A number of 64 bits is read back from its written form, whatever follows it. -/
theorem readVarint_encodeVarint (n : Nat) (rest : List UInt8) (h : n < 2 ^ 64) :
    readVarint (encodeVarint n ++ rest) = some (n, rest) :=
  readVarintWithin_encodeVarint 9 n rest (Nat.lt_of_lt_of_le h (by decide))

/-! ## Numbers that are too large -/

theorem readVarintWithin_encodeVarint_of_le (k n : Nat) (rest : List UInt8) (h : 2 * 128 ^ k ≤ n) :
    readVarintWithin (k + 1) (encodeVarint n ++ rest) = none := by
  induction k generalizing n with
  | zero =>
    rw [encodeVarint]
    split
    · next hn =>
      have hb : n.toUInt8.toNat = n := toNat_toUInt8 (by omega)
      have hlt : 1 < n.toUInt8 := by
        rw [UInt8.lt_iff_toNat_lt, hb]
        exact h
      simp [readVarintWithin, hlt]
    · rw [List.cons_append, readVarintWithin, if_neg (not_continuation_lt n), readVarintWithin]
  | succ k ih =>
    rw [pow_succ] at h
    have hpos : 0 < 128 ^ k := Nat.pow_pos (by decide)
    have hn : ¬ n < 128 := by omega
    rw [encodeVarint, if_neg hn, List.cons_append, readVarintWithin,
      if_neg (not_continuation_lt n), ih _ (by omega)]

/-- A number that does not fit into 64 bits is written in a form that is refused. -/
theorem readVarint_encodeVarint_of_le (n : Nat) (rest : List UInt8) (h : 2 ^ 64 ≤ n) :
    readVarint (encodeVarint n ++ rest) = none :=
  readVarintWithin_encodeVarint_of_le 9 n rest (Nat.le_trans (by decide) h)

/-! ## Several numbers -/

/-- Reading a number takes at least one byte. -/
theorem length_lt_of_readVarintWithin {left n : Nat} {bytes rest : List UInt8}
    (h : readVarintWithin left bytes = some (n, rest)) : rest.length < bytes.length := by
  induction left generalizing bytes n rest with
  | zero => simp [readVarintWithin] at h
  | succ left ih =>
    cases bytes with
    | nil => simp [readVarintWithin] at h
    | cons b bytes =>
      simp only [readVarintWithin] at h
      split at h
      · split at h
        · simp at h
        · simp only [Option.some.injEq, Prod.mk.injEq] at h
          simp [h.2]
      · split at h
        · next hread =>
          have hlt := ih hread
          simp only [Option.some.injEq, Prod.mk.injEq] at h
          simp only [← h.2, List.length_cons]
          omega
        · simp at h

theorem readVarintsWithin_flatMap_encodeVarint {ns : List Nat} (h : ∀ n ∈ ns, n < 2 ^ 64)
    (fuel : Nat) (hfuel : (ns.flatMap encodeVarint).length ≤ fuel) :
    readVarintsWithin fuel (ns.flatMap encodeVarint) = some ns := by
  induction ns generalizing fuel with
  | nil => cases fuel <;> rfl
  | cons n ns ih =>
    rw [List.flatMap_cons] at hfuel ⊢
    have hread := readVarint_encodeVarint n (ns.flatMap encodeVarint) (h n List.mem_cons_self)
    obtain ⟨b, bs, hbytes⟩ := List.exists_cons_of_ne_nil (encodeVarint_ne_nil n)
    rw [hbytes, List.cons_append] at hfuel hread ⊢
    cases fuel with
    | zero => simp at hfuel
    | succ fuel =>
      have hle : (ns.flatMap encodeVarint).length ≤ fuel := by
        simp only [List.length_cons, List.length_append] at hfuel
        omega
      have htail := ih (fun m hm => h m (List.mem_cons_of_mem _ hm)) fuel hle
      simp only [readVarintsWithin, hread, htail, Option.map_some]

/-- Numbers of 64 bits that are written one after the other are read back. -/
theorem readVarints_flatMap_encodeVarint {ns : List Nat} (h : ∀ n ∈ ns, n < 2 ^ 64) :
    readVarints (ns.flatMap encodeVarint) = some ns :=
  readVarintsWithin_flatMap_encodeVarint h _ (Nat.le_refl _)

end GoStubs.Wire
