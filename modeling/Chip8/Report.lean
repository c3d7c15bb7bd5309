/-!
# Error reports

An error as it is shown to the user: what went wrong, and below it the chain of causes.
-/

namespace Chip8

/-- An error with its causes, which `main` returns. -/
structure Report where
  message : String
  /-- The nearest cause first. -/
  causes : List String := []
deriving DecidableEq

namespace Report

/-- A text whose further lines stand under its first one: `margin` follows every line feed. -/
def hang (margin : String) (text : String) : String :=
  String.join (text.toList.map fun c => if c = '\n' then "\n" ++ margin else c.toString)

/-- A cause that stands alone, four columns in. -/
def single (cause : String) : String := "    " ++ hang "    " cause

/-- One of several causes, under its number. -/
def numbered (number : Nat) (cause : String) : String :=
  let digits := toString number
  String.ofList (List.replicate (5 - digits.length) ' ') ++ digits ++ ": " ++ hang "       " cause

/-- The lines of the causes: numbered from 0 if there are several. -/
def causeLines : List String → List String
  | [] => []
  | [cause] => [single cause]
  | causes => causes.zipIdx.map fun entry => numbered entry.2 entry.1

/-- The message, and the causes under a heading of their own. -/
def body (r : Report) : String :=
  match causeLines r.causes with
  | [] => r.message
  | lines => r.message ++ "\n\nCaused by:" ++ String.join (lines.map ("\n" ++ ·))

/-- The report as a failed run leaves it. -/
def render (r : Report) : String := "Error: " ++ r.body ++ "\n"

end Report

end Chip8
