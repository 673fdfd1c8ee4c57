import GoStubs.Wire.Token
/-!
# Records of an encoded message

A record is a field number with a complete value. Groups are not known to any message here, so
of a group only its height is kept: how many levels of nesting a reader goes through to skip it.
The end of a group has to bear the number of the group that is open.

* `Payload.height`: the levels that skipping a value takes.
* `records`: the records of a message.
-/

namespace GoStubs.Wire

/-- A complete value. -/
inductive Payload where
  /-- A number. -/
  | varint (n : Nat)
  | fixed64 (bytes : List UInt8)
  /-- Bytes after their number. -/
  | delimited (bytes : List UInt8)
  /-- A group whose fields have been skipped. -/
  | group (height : Nat)
  | fixed32 (bytes : List UInt8)
  deriving DecidableEq, Repr

/-- A field number with a complete value. -/
structure Record where
  number : Nat
  payload : Payload
  deriving DecidableEq, Repr

/-- How many levels of nesting a reader goes through to skip the value: one for the value itself
and, for a group, as many as the deepest of its fields takes. -/
def Payload.height : Payload → Nat
  | group height => height
  | varint _ | fixed64 _ | delimited _ | fixed32 _ => 1

/-- The value of a token that belongs to no group. -/
def TokenValue.payload? : TokenValue → Option Payload
  | varint n => some (.varint n)
  | fixed64 bytes => some (.fixed64 bytes)
  | delimited bytes => some (.delimited bytes)
  | fixed32 bytes => some (.fixed32 bytes)
  | groupStart | groupEnd => none

/-- Collects records. The numbers of the open groups are given with the innermost one first, and
with the height that the outermost one has so far. -/
def collect : (groups : List Nat) → (height : Nat) → List Token → Option (List Record)
  | [], _, [] => some []
  | _ :: _, _, [] => none
  | [], _, t :: ts =>
    match t.value with
    | .groupStart => collect [t.number] 1 ts
    | .groupEnd => none
    | value =>
      match value.payload?, collect [] 0 ts with
      | some payload, some rs => some (⟨t.number, payload⟩ :: rs)
      | _, _ => none
  | g :: gs, height, t :: ts =>
    match t.value with
    | .groupStart => collect (t.number :: g :: gs) (max height (gs.length + 2)) ts
    | .groupEnd =>
      if t.number ≠ g then none
      else if gs.isEmpty then (collect [] 0 ts).map (⟨g, .group height⟩ :: ·)
      else collect gs height ts
    | _ => collect (g :: gs) (max height (gs.length + 2)) ts

/-- The records of a message. -/
def records (bytes : List UInt8) : Option (List Record) := (tokens bytes).bind (collect [] 0)

end GoStubs.Wire
