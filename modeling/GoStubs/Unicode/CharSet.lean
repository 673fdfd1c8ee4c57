/-!
# Character sets

A set of characters is a list of ranges of code points. The classes of characters that the
generator asks about are such sets beyond ASCII; below, each class is an explicit test, so that
statements about ASCII names never look into a table.
-/

namespace GoStubs.Unicode

/-- A set of characters, as closed ranges of code points. -/
structure CharSet where
  /-- The first and the last code point of each range. -/
  ranges : List (Nat × Nat)

/-- Whether `c` lies in one of the ranges. -/
def CharSet.contains (s : CharSet) (c : Char) : Bool :=
  s.ranges.any fun r => r.1 ≤ c.toNat && c.toNat ≤ r.2

/-- Whether `c` is an ASCII character. -/
def isAscii (c : Char) : Bool := c.toNat < 128

/-- What holds of the first 128 characters holds of all ASCII characters. -/
theorem of_isAscii {p : Char → Prop} (hall : ∀ n < 128, p (Char.ofNat n)) {c : Char}
    (h : isAscii c = true) : p c := by
  have hc := hall c.toNat (by simpa [isAscii] using h)
  rwa [Char.ofNat_toNat] at hc

end GoStubs.Unicode
