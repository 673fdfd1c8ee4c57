import GoStubs.Unicode.CaseIgnorable
import GoStubs.Unicode.Cased
import GoStubs.Unicode.LowerCase
/-!
# Lower-casing a text

Each character is replaced by its lower-case form. A capital sigma has two: the final one at the
end of a word, the medial one elsewhere. A word ends where a cased character stands before the
sigma and none after it, looking through case-ignorable characters on both sides.
-/

namespace GoStubs.Text

open GoStubs.Unicode

/-- Whether the first character that is not case-ignorable is cased. -/
def startsCased (cs : List Char) : Bool :=
  match cs.dropWhile isCaseIgnorable with
  | [] => false
  | c :: _ => isCased c

/-- The lower-case form of a capital sigma between two stretches of text, the one before it
read backwards. -/
def lowerSigma (before after : List Char) : Char :=
  if startsCased before && !startsCased after then 'ς' else 'σ'

/-- The lower-case form of a text of which the characters `before`, read backwards, have
been passed. -/
def lowerFrom (before : List Char) : List Char → List Char
  | [] => []
  | c :: after =>
    (if c = 'Σ' then [lowerSigma before after] else lowerChar c) ++ lowerFrom (c :: before) after

/-- The lower-case form of a text. -/
def lower (s : String) : String := String.ofList (lowerFrom [] s.toList)

end GoStubs.Text
