/-!
# The last element of a path

Paths are separated by slashes. Slashes at the end do not count; a path of slashes alone has the
element `/`, and the empty path the element `.`, the current directory.
-/

namespace GoStubs.Go

/-- The last element of a path given as characters. -/
def lastElementChars (path : List Char) : List Char :=
  match (path.reverse.dropWhile (· = '/')).takeWhile (· ≠ '/') with
  | [] => if path.isEmpty then ['.'] else ['/']
  | last => last.reverse

/-- The last element of a path. -/
def lastElement (path : String) : String := String.ofList (lastElementChars path.toList)

end GoStubs.Go
