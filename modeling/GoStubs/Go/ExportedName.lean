/-!
# Exported Go names

The Go name of a protobuf name. Words are delimited by an underscore or by an upper-case letter,
and each word starts in upper case. A dot between the names of nested messages becomes an
underscore, or vanishes before a lower-case letter, which is then raised instead. An underscore at
the start of a dotted part turns into `X`, so that the result is exported.

Only ASCII letters have a case here; all other characters pass unchanged.
-/

namespace GoStubs.Go

/-- Where the reader of a name stands. -/
inductive WordPosition where
  /-- At the start of the name or right after a dot. -/
  | start
  /-- After a character that a lower-case letter does not continue. -/
  | boundary
  /-- Inside a word, which goes on as long as lower-case letters follow. -/
  | word
  deriving DecidableEq, Repr

/-- Whether the first character is a lower-case ASCII letter. -/
def startsLower : List Char → Bool
  | [] => false
  | c :: _ => c.isLower

/-- The Go name of the characters that follow a position. -/
def exportedFrom (position : WordPosition) : List Char → List Char
  | [] => []
  | c :: cs =>
    if position = .word && c.isLower then c :: exportedFrom .word cs
    else if c = '.' then
      if startsLower cs then exportedFrom .start cs else '_' :: exportedFrom .start cs
    else if c = '_' then
      if position = .start then 'X' :: exportedFrom .boundary cs
      else if startsLower cs then exportedFrom .boundary cs
      else '_' :: exportedFrom .boundary cs
    else if c.isDigit then c :: exportedFrom .boundary cs
    else c.toUpper :: exportedFrom .word cs

/-- The exported Go name of a protobuf name. -/
def exportedName (name : String) : String := String.ofList (exportedFrom .start name.toList)

end GoStubs.Go
