import Chip8.Instruction.Mnemonic
import Chip8.Machine.Execute

/-!
# Cycles

One cycle fetches the word at the program counter, moves the counter past it, executes it, and lets
the timers count.

Results:
* `cycles_add`: running `a` and then `b` cycles is running `a + b` cycles.
* `length_traceLines`: a trace has one line a cycle.
-/

namespace Chip8.Machine

/-- The instruction at the program counter, which the next cycle executes (`next_instruction`). -/
def nextInstruction (m : Machine) : Instruction := Instruction.ofWord m.nextWord

/-- Lets the timers count one cycle. -/
def countCycle (m : Machine) : Machine :=
  { m with timers := m.timers.onCycle m.setup.cyclesPerTick }

/-- Fetches, executes and counts (`execute_cycle`). -/
def cycle (m : Machine) : Machine := (m.skip.execute m.nextInstruction).countCycle

/-- `n` cycles, one after the other. -/
def cycles : (n : Nat) → Machine → Machine
  | 0, m => m
  | n + 1, m => cycles n m.cycle

/-- The line that `run_frame` writes out for the next cycle: program counter, word and mnemonic. -/
def traceLine (m : Machine) : String :=
  Text.hex 3 m.pc.toNat ++ "  " ++ Text.hex 4 m.nextWord.toNat ++ "  " ++ m.nextInstruction.mnemonic

/-- The lines of the next `n` cycles, each taken before its cycle runs. -/
def traceLines : (n : Nat) → Machine → List String
  | 0, _ => []
  | n + 1, m => m.traceLine :: traceLines n m.cycle

theorem cycles_add (a b : Nat) (m : Machine) : m.cycles (a + b) = (m.cycles a).cycles b := by
  induction a generalizing m with
  | zero => simp [cycles]
  | succ a ih => rw [show a + 1 + b = (a + b) + 1 by omega]; exact ih m.cycle

@[simp] theorem length_traceLines (n : Nat) (m : Machine) : (m.traceLines n).length = n := by
  induction n generalizing m with
  | zero => rfl
  | succ n ih => simp [traceLines, ih]

end Chip8.Machine
