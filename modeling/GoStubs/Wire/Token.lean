import GoStubs.Wire.Varint
/-!
# Tokens of an encoded message

The bytes of a message are a sequence of tokens: a key, which holds a field number and the way
in which the value is written, and the value. A group is written as two tokens around those of
its fields; matching them is left to the next step.

* `Token.read`: one token and the bytes after it.
* `tokens`: all tokens of a message.
-/

namespace GoStubs.Wire

/-- What follows a key. -/
inductive TokenValue where
  /-- A number. -/
  | varint (n : Nat)
  | fixed64 (bytes : List UInt8)
  /-- Bytes after their number. -/
  | delimited (bytes : List UInt8)
  | groupStart
  | groupEnd
  | fixed32 (bytes : List UInt8)
  deriving DecidableEq, Repr

/-- A key with its value. -/
structure Token where
  number : Nat
  /-- What follows the key. -/
  value : TokenValue
  deriving DecidableEq, Repr

/-- The first `n` bytes and the bytes after them, if there are so many. -/
def takeExactly (n : Nat) (bytes : List UInt8) : Option (List UInt8 × List UInt8) :=
  let taken := bytes.take n
  if taken.length = n then some (taken, bytes.drop n) else none

/-- Reads bytes after their number. -/
def readDelimited (bytes : List UInt8) : Option (List UInt8 × List UInt8) :=
  match readVarint bytes with
  | some (n, rest) => takeExactly n rest
  | none => none

/-- Reads the value that the low bits of a key announce. -/
def TokenValue.read (wireType : Nat) (bytes : List UInt8) : Option (TokenValue × List UInt8) :=
  match wireType with
  | 0 => (readVarint bytes).map fun (n, rest) => (varint n, rest)
  | 1 => (takeExactly 8 bytes).map fun (taken, rest) => (fixed64 taken, rest)
  | 2 => (readDelimited bytes).map fun (taken, rest) => (delimited taken, rest)
  | 3 => some (groupStart, bytes)
  | 4 => some (groupEnd, bytes)
  | 5 => (takeExactly 4 bytes).map fun (taken, rest) => (fixed32 taken, rest)
  | _ => none

/-- The least number that no key may reach. -/
def keyLimit : Nat := 0x100000000

/-- Reads a key: a field number, which is not zero, and the way in which the value is written. -/
def readKey (bytes : List UInt8) : Option ((Nat × Nat) × List UInt8) :=
  match readVarint bytes with
  | some (key, rest) =>
    if key < keyLimit && key / 8 ≠ 0 then some ((key / 8, key % 8), rest) else none
  | none => none

/-- Reads a token: the token and the bytes after it. -/
def Token.read (bytes : List UInt8) : Option (Token × List UInt8) :=
  match readKey bytes with
  | some ((number, wireType), rest) =>
    (TokenValue.read wireType rest).map fun (value, rest) => (⟨number, value⟩, rest)
  | none => none

/-- Reads tokens up to the end of the bytes, with at most `fuel` of them. -/
def tokensWithin : (fuel : Nat) → List UInt8 → Option (List Token)
  | _, [] => some []
  | 0, _ :: _ => none
  | fuel + 1, b :: bytes =>
    match Token.read (b :: bytes) with
    | some (t, rest) => (tokensWithin fuel rest).map (t :: ·)
    | none => none

/-- Reads tokens up to the end of the bytes. Each takes at least one byte. -/
def tokens (bytes : List UInt8) : Option (List Token) := tokensWithin bytes.length bytes

end GoStubs.Wire
