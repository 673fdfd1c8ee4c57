import GoStubs.Unicode.Combining
import GoStubs.Unicode.Printable
/-!
# Quoted text

How messages to the user show a text in double quotes: a quote and a backslash stand after a
backslash, four control characters have short forms, and every other character that would not show
up on its own, because it is unprintable or drawn on its neighbour, is written by its code point.
-/

namespace GoStubs.Text.Quoted

open GoStubs.Unicode

/-- The digits of a code point in base sixteen, the first one not zero. -/
def hexDigits (code : Nat) : List Char := Nat.toDigits 16 code

/-- The written form of one character. -/
def encodeChar (c : Char) : List Char :=
  if c = '\x00' then ['\\', '0']
  else if c = '\t' then ['\\', 't']
  else if c = '\r' then ['\\', 'r']
  else if c = '\n' then ['\\', 'n']
  else if c = '"' || c = '\\' then ['\\', c]
  else if isCombining c || !isPrintable c then
    ['\\', 'u', '\x7b'] ++ hexDigits c.toNat ++ ['\x7d']
  else [c]

/-- The written form of a text, between two quotes. -/
def encode (s : String) : String :=
  String.ofList ('"' :: s.toList.flatMap encodeChar ++ ['"'])

end GoStubs.Text.Quoted
