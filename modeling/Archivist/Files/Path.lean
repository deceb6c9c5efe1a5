import Archivist.Text

set_option autoImplicit false

namespace Archivist

/-- A path as its parts, which are names, dots for the directory itself and pairs of dots for the
one above. A path may start at the root and may end in a slash. -/
structure FilePath where
  absolute : Bool
  parts : List String
  trailingSlash : Bool
deriving Repr, DecidableEq

namespace FilePath

def read (text : String) : FilePath where
  absolute := text.toList.head? = some '/'
  parts := ((Text.splitAt '/' text.toList).map String.ofList).filter (· ≠ "")
  trailingSlash := text.toList.getLast? = some '/'

def longestPath : Nat := 4095

def longestName : Nat := 255

def isPossible (text : String) : Bool :=
  text.utf8ByteSize ≤ longestPath && text.toList.all (· ≠ Char.ofNat 0)

/-- Slashes and dots that end a path name nothing. The path is read from its end. -/
def trimEnd : List Char → List Char
  | '/' :: rest => trimEnd rest
  | '.' :: '/' :: rest => trimEnd rest
  | path => path

/-- A name without its last extension; a dot at the front begins none. -/
def stem (name : List Char) : List Char :=
  let extension := name.reverse.takeWhile (· ≠ '.')
  let before := (name.reverse.drop (extension.length + 1)).reverse
  if before.isEmpty then name else before

/-- The path with another extension. Its own extension goes first, and where only two dots are left
at its end they mean the directory above, which has no extension. A path that ends in no name of a
file stays as it is. -/
def withExtension (path extension : String) : String :=
  let reversed := path.toList.reverse
  let trimmed := trimEnd reversed
  let name := (trimmed.takeWhile (· ≠ '/')).reverse
  let before := (trimmed.dropWhile (· ≠ '/')).reverse
  if name = [] ∨ name = ['.'] ∨ name = ['.', '.'] then path
  else if stem name = ['.'] ∧ trimmed.length = reversed.length then
    String.ofList (before ++ ['.', '.'])
  else String.ofList (before ++ stem name) ++ "." ++ extension

end FilePath

end Archivist
