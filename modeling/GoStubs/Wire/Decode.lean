import GoStubs.Wire.Fields
import GoStubs.Wire.Record
import GoStubs.Wire.Schema
/-!
# Decoding messages

The records of a message become fields as its schema says. Records that the schema does not know
are skipped; known ones must be written in the way that their type asks for. A budget limits the
nesting: a message inside another one costs one level, and so does a record that is skipped, or
as many levels as its groups are deep.

* `decode`: the fields of a message, from its bytes.
-/

namespace GoStubs.Wire

/-- The levels of nesting that a whole message may use. -/
def nestingBudget : Nat := 100

/-- The value of a field without a message, if it is written as the type asks for. -/
def ScalarType.read : ScalarType → Payload → Option Scalar
  | number, .varint n => some (.number n)
  | numbers, .varint n => some (.numbers [n])
  | numbers, .delimited content => (readVarints content).map .numbers
  | double, .fixed64 content => some (.double content)
  | bytes, .delimited content => some (.bytes content)
  | text, .delimited content => (utf8Text? content).map .text
  | _, _ => none

/-- The field that a record is, with `body` to decode a message inside it. A record that is
skipped is no field. -/
def decodeRecord (body : Kind → List UInt8 → Option Fields) (budget : Nat) (kind : Kind)
    (r : Record) : Option Fields :=
  match kind.field? r.number, r.payload with
  | none, payload => if payload.height ≤ budget then some .nil else none
  | some (.scalar type), payload =>
    (type.read payload).map fun value => .scalar r.number value .nil
  | some (.message inner), .delimited bytes =>
    (body inner bytes).map fun fields => .message r.number fields .nil
  | some (.message _), _ => none

/-- The fields that records are. -/
def decodeRecords (body : Kind → List UInt8 → Option Fields) (budget : Nat) (kind : Kind) :
    List Record → Option Fields
  | [] => some .nil
  | r :: rs =>
    match decodeRecord body budget kind r with
    | some fields => (decodeRecords body budget kind rs).map (fields ++ ·)
    | none => none

/-- The fields of a message for which a budget is left. Without any, it can hold no message. -/
def decodeWithin : (budget : Nat) → Kind → List UInt8 → Option Fields
  | 0, kind, bytes => (records bytes).bind (decodeRecords (fun _ _ => none) 0 kind)
  | budget + 1, kind, bytes =>
    (records bytes).bind (decodeRecords (decodeWithin budget) (budget + 1) kind)

/-- The fields of a message of the given kind, from its bytes. -/
def decode (kind : Kind) (bytes : List UInt8) : Option Fields :=
  decodeWithin nestingBudget kind bytes

end GoStubs.Wire
