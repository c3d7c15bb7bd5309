/-!
# Lines of a text

A text is cut at its line feeds. A line feed at the very end begins no further line, and a carriage
return right before a line feed belongs to the cut.
-/

namespace Chip8.Text

/-- A line without the carriage return at its end. -/
def dropReturn (line : List Char) : List Char :=
  if line.getLast? = some '\r' then line.dropLast else line

/-- The lines of a text, of which `current`, read backwards, has been seen already. -/
def linesFrom (current : List Char) : List Char → List (List Char)
  | [] => if current.isEmpty then [] else [current.reverse]
  | c :: rest =>
    if c = '\n' then dropReturn current.reverse :: linesFrom [] rest
    else linesFrom (c :: current) rest

def lines (text : List Char) : List (List Char) := linesFrom [] text

end Chip8.Text
