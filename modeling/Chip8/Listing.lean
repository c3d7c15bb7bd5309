import Chip8.Instruction.Mnemonic
import Chip8.Machine

/-!
# Program listings

The words of a loaded program with their addresses and mnemonics, one line each.
-/

namespace Chip8.Machine

/-- The line of the word at an address: one pass of the loop in `disassemble`. -/
def listingLine (m : Machine) (address : Nat) : String :=
  let word := m.memory.readWord (UInt64.ofNat address)
  Text.hex 3 address ++ ": " ++ Text.hex 4 word.toNat ++ "  " ++ (Instruction.ofWord word).mnemonic

/-- The lines of the words in the `length` bytes from the program start on (`disassemble`), the last
one for an odd byte. -/
def listing (m : Machine) (length : Nat) : List String :=
  (List.range ((length + 1) / 2)).map fun k => m.listingLine (Memory.programStart + 2 * k)

end Chip8.Machine
