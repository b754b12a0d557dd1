import CpuIdent.Text.Cut

/-!
# Paths

Paths as texts, with a slash between names. A path that begins with a slash starts at the root, any other one at the working
directory. A point stands for the directory itself and two points for the one above it; repeated slashes count as one.
-/

namespace CpuIdent
namespace Path

/-- The most bytes that the system takes in a path. -/
def maxBytes : Nat := 4095

/-- The most bytes that a name along a path may have. -/
def maxNameBytes : Nat := 255

/-- The bytes of a path or of a name. -/
def byteCount (p : List Char) : Nat := p.foldl (fun n c => n + c.utf8Size) 0

/-- A path inside another: the second text behind the first, with one slash between them. -/
def join (base name : List Char) : List Char :=
  if base.isEmpty ∨ base.getLast? = some '/' then base ++ name else base ++ '/' :: name

/-- Whether a path starts at the root. -/
def startsAtRoot (p : List Char) : Bool := p.head? == some '/'

/-- Whether a path ends in a slash, so that only a directory can be meant. -/
def endsInSlash (p : List Char) : Bool := p.getLast? == some '/'

/-- The names along a path. -/
def names (p : List Char) : List (List Char) := (Text.pieces (· == '/') p).filter fun n => !n.isEmpty

/-- A path in reverse without the slashes and points at its end that add nothing to it. -/
def trimReversed : List Char → List Char
  | '/' :: c :: rest => trimReversed (c :: rest)
  | ['.', '/'] => ['/']
  | '.' :: '/' :: c :: rest => trimReversed (c :: rest)
  | s => s

/-- The path without its last name, if it has one. -/
def parent? (p : List Char) : Option (List Char) :=
  match trimReversed p.reverse with
  | [] => none
  | ['/'] => none
  | s => some (trimReversed (s.dropWhile (· != '/'))).reverse

end Path
end CpuIdent
