import GoStubs.Unicode.CharSet
/-!
# Blank characters

The property `White_Space`, the characters that trimming removes.
-/

namespace GoStubs.Unicode

/-- The blank characters beyond ASCII. -/
def blankSet : CharSet where ranges :=
  [(0x0085, 0x0085), (0x00A0, 0x00A0), (0x1680, 0x1680), (0x2000, 0x200A), (0x2028, 0x2029),
   (0x202F, 0x202F), (0x205F, 0x205F), (0x3000, 0x3000)]

/-- Whether `c` is blank. -/
def isBlank (c : Char) : Bool :=
  if isAscii c then c = ' ' || 9 ≤ c.toNat && c.toNat ≤ 13 else blankSet.contains c

end GoStubs.Unicode
