/-!
# The stem of a file name

The last part of a path without its ending. Slashes separate the parts of a path, and parts that are
empty or a single dot do not count.
-/

namespace Chip8.Text

/-- The parts of a path between its slashes, of which `current`, read backwards, has been seen. -/
def partsFrom (current : List Char) : List Char → List (List Char)
  | [] => [current.reverse]
  | c :: rest =>
    if c = '/' then current.reverse :: partsFrom [] rest else partsFrom (c :: current) rest

/-- The last part of a path; there is none if the path ends at a root or in a step to the parent. -/
def fileName? (path : List Char) : Option (List Char) :=
  let parts := (partsFrom [] path).filter fun part => part ≠ [] ∧ part ≠ ['.']
  parts.getLast?.filter (· ≠ ['.', '.'])

/-- A name up to its last dot, unless nothing stands before that. -/
def stem (name : List Char) : List Char :=
  let front := (name.reverse.dropWhile (· ≠ '.')).tail.reverse
  if front.isEmpty then name else front

/-- The stem of the last part of a path (`file_stem`). -/
def fileStem? (path : String) : Option String :=
  (fileName? path.toList).map fun name => String.ofList (stem name)

end Chip8.Text
