import GoStubs.Wire.Fields
import GoStubs.Wire.Varint
/-!
# Encoding messages

The bytes of a sequence of fields, in its order: each field is a key, which holds its number and
the way in which the value is written, and the value. Numbers take their shortest form.
-/

namespace GoStubs.Wire

/-- The bytes of a key. -/
def encodeKey (number wireType : Nat) : List UInt8 := encodeVarint (8 * number + wireType)

/-- Bytes after their number. -/
def encodeDelimited (bytes : List UInt8) : List UInt8 := encodeVarint bytes.length ++ bytes

/-- The bytes of a field that holds no message. -/
def Scalar.encode (number : Nat) : Scalar → List UInt8
  | .number n => encodeKey number 0 ++ encodeVarint n
  | .numbers ns => encodeKey number 2 ++ encodeDelimited (ns.flatMap encodeVarint)
  | .double content => encodeKey number 1 ++ content
  | .bytes content => encodeKey number 2 ++ encodeDelimited content
  | .text s => encodeKey number 2 ++ encodeDelimited (utf8Bytes s)

/-- The bytes of fields. -/
def Fields.encode : Fields → List UInt8
  | nil => []
  | scalar number value rest => value.encode number ++ rest.encode
  | message number body rest =>
    encodeKey number 2 ++ encodeDelimited body.encode ++ rest.encode

end GoStubs.Wire
