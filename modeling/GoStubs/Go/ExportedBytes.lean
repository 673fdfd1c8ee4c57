import GoStubs.Wire.Utf8
/-!
# Exported Go names by their bytes

A name need not be decoded to be exported: all that changes in it is ASCII, so that its bytes in UTF-8
can be read one by one, with one look back and one ahead. The bytes that this leaves are read as a text
again at the end.
-/

namespace GoStubs.Go

/-- Whether a byte is a lower-case ASCII letter. -/
def isLowerByte (b : UInt8) : Bool := 'a'.toUInt8 ≤ b && b ≤ 'z'.toUInt8

/-- Whether a byte is an ASCII digit. -/
def isDigitByte (b : UInt8) : Bool := '0'.toUInt8 ≤ b && b ≤ '9'.toUInt8

/-- The byte of the upper-case letter, if the byte is a lower-case letter, and otherwise the byte. -/
def upperByte (b : UInt8) : UInt8 := if isLowerByte b then b - 32 else b

/-- Whether the first byte is a lower-case ASCII letter. -/
def startsLowerByte : List UInt8 → Bool
  | [] => false
  | b :: _ => isLowerByte b

/-- The bytes of the Go name for the bytes that follow `before`, or that nothing comes before. A word is
read at once, with all lower-case letters in it. -/
def exportedBytesFrom (before : Option UInt8) : List UInt8 → List UInt8
  | [] => []
  | b :: bs =>
    if b = '.'.toUInt8 ∧ startsLowerByte bs then exportedBytesFrom (some b) bs
    else if b = '.'.toUInt8 then '_'.toUInt8 :: exportedBytesFrom (some b) bs
    else if b = '_'.toUInt8 ∧ (before = none ∨ before = some '.'.toUInt8) then
      'X'.toUInt8 :: exportedBytesFrom (some b) bs
    else if b = '_'.toUInt8 ∧ startsLowerByte bs then exportedBytesFrom (some b) bs
    else if isDigitByte b then b :: exportedBytesFrom (some b) bs
    else
      let letters := bs.takeWhile isLowerByte
      upperByte b :: letters ++
        exportedBytesFrom (b :: letters).getLast? (bs.dropWhile isLowerByte)
termination_by bs => bs.length
decreasing_by
  all_goals
    have hrest := (List.dropWhile_sublist isLowerByte (l := bs)).length_le
    simp only [List.length_cons]
    omega

/-- The bytes of the Go name for the bytes of a name. -/
def exportedBytes (bytes : List UInt8) : List UInt8 := exportedBytesFrom none bytes

/-- The Go name of a name, by its bytes. Should these be no text any more, `repair` makes one of them. -/
def exportedText (repair : List UInt8 → String) (name : String) : String :=
  let bytes := exportedBytes (Wire.utf8Bytes name)
  (Wire.utf8Text? bytes).getD (repair bytes)

end GoStubs.Go
