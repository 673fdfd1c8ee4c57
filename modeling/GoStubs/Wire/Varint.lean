/-!
# Variable-length numbers

A number is written in groups of seven bits, the lowest group first; every byte but the last has
its top bit set. A reader accepts at most ten bytes, and of the tenth only the bit that still
fits into 64 bits. Zero groups at the end are accepted, so a number has several written forms.

* `readVarint`: a number and the bytes after it.
* `encodeVarint`: the shortest written form.
-/

namespace GoStubs.Wire

/-- The most bytes that a number may take. -/
def maxVarintBytes : Nat := 10

/-- Reads a number of which at most `left` bytes are still allowed. -/
def readVarintWithin : (left : Nat) → List UInt8 → Option (Nat × List UInt8)
  | 0, _ => none
  | _ + 1, [] => none
  | left + 1, b :: bytes =>
    if b < 128 then
      if left = 0 && 1 < b then none else some (b.toNat, bytes)
    else
      match readVarintWithin left bytes with
      | some (n, rest) => some (b.toNat - 128 + 128 * n, rest)
      | none => none

/-- Reads a number: its value and the bytes after it. -/
def readVarint (bytes : List UInt8) : Option (Nat × List UInt8) :=
  readVarintWithin maxVarintBytes bytes

/-- The shortest written form of a number. -/
def encodeVarint (n : Nat) : List UInt8 :=
  if n < 128 then [n.toUInt8] else (n % 128 + 128).toUInt8 :: encodeVarint (n / 128)

/-- Reads numbers up to the end of the bytes, with at most `fuel` of them. -/
def readVarintsWithin : (fuel : Nat) → List UInt8 → Option (List Nat)
  | _, [] => some []
  | 0, _ :: _ => none
  | fuel + 1, b :: bytes =>
    match readVarint (b :: bytes) with
    | some (n, rest) => (readVarintsWithin fuel rest).map (n :: ·)
    | none => none

/-- Reads numbers up to the end of the bytes. Each takes at least one byte. -/
def readVarints (bytes : List UInt8) : Option (List Nat) := readVarintsWithin bytes.length bytes

end GoStubs.Wire
