/-!
# Classes of characters

A class of characters as ranges of code points.
-/

namespace Chip8.Text

/-- Whether a code point lies in a range, both ends included. -/
def isBetween (low high : Nat) (c : Char) : Bool := low ≤ c.toNat && c.toNat ≤ high

/-- A set of characters: ranges of code points, both ends included. -/
structure CharacterClass where
  ranges : List (Nat × Nat)

namespace CharacterClass

def contains (s : CharacterClass) (c : Char) : Bool :=
  s.ranges.any fun range => isBetween range.1 range.2 c

end CharacterClass

end Chip8.Text
