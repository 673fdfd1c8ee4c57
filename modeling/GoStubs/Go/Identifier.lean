import GoStubs.Unicode.Alphabetic
import GoStubs.Unicode.Numeric
/-!
# Usable Go identifiers

Any text can be turned into an identifier that Go code may declare: what is neither a letter nor a
digit becomes an underscore, and an underscore in front saves a text that starts with no letter or
that spells a keyword.
-/

namespace GoStubs.Go

open GoStubs.Unicode

/-- The keywords of Go, which are no identifiers. -/
def keywords : List String :=
  ["break", "case", "chan", "const", "continue", "default", "defer", "else", "fallthrough", "for",
   "func", "go", "goto", "if", "import", "interface", "map", "package", "range", "return",
   "select", "struct", "switch", "type", "var"]

/-- The names of Go's universe scope. An import with one of these names would hide it in the
whole file. -/
def predeclared : List String :=
  ["any", "append", "bool", "byte", "cap", "clear", "close", "comparable", "complex",
   "complex128", "complex64", "copy", "delete", "error", "false", "float32", "float64", "imag",
   "int", "int16", "int32", "int64", "int8", "iota", "len", "make", "max", "min", "new", "nil",
   "panic", "print", "println", "real", "recover", "rune", "string", "true", "uint", "uint16",
   "uint32", "uint64", "uint8", "uintptr"]

/-- Whether `c` is a letter or a digit. -/
def isAlphanumeric (c : Char) : Bool := isAlphabetic c || isNumeric c

/-- The character, or an underscore in place of one that is neither a letter nor a digit. -/
def identifierChar (c : Char) : Char := if isAlphanumeric c then c else '_'

/-- Whether the first character is a letter. -/
def startsAlphabetic : List Char → Bool
  | [] => false
  | c :: _ => isAlphabetic c

/-- The identifier made of a text. -/
def identifierOf (s : String) : String :=
  let mapped := s.toList.map identifierChar
  if keywords.contains (String.ofList mapped) || !startsAlphabetic mapped then
    String.ofList ('_' :: mapped)
  else String.ofList mapped

end GoStubs.Go
