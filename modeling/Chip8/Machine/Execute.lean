import Chip8.Instruction
import Chip8.Machine

/-!
# What instructions do

The effect of each instruction on the machine, arm by arm of `Instruction::execute`. The program
counter already stands past the instruction: a jump overwrites it, a skip moves it on by another
two, and waiting for a key moves it back by two so that the same instruction runs again.

Results:
* `execute_of_branches`: what the instructions with two effects can touch.
* `result_add` and its companions: the two-register operations in terms of numbers.
* `combine_eq`: a two-register operation writes the flag first and VX last, so that the result wins
  over the flag where X is F.
-/

namespace Chip8

/-- Whether a skip happens: the tests in the arms of the six skips. -/
def Condition.holds (condition : Condition) (m : Machine) : Bool :=
  match condition with
  | isByte x nn => m.readRegister x == nn
  | isNotByte x nn => m.readRegister x != nn
  | same x y => m.readRegister x == m.readRegister y
  | differ x y => m.readRegister x != m.readRegister y
  | pressed x => m.keypad.isPressed (m.readRegister x)
  | released x => !m.keypad.isPressed (m.readRegister x)

namespace Operation

/-- The value for VX, of the values `a` of VX and `b` of VY. -/
def result (op : Operation) (a b : UInt8) : UInt8 :=
  match op with
  | copy => b
  | or => a ||| b
  | and => a &&& b
  | xor => a ^^^ b
  | add => a + b
  | subtract => a - b
  | halve => b >>> 1
  | subtractFrom => b - a
  | double => b <<< 1

/-- The flag, for the operations that set it. -/
def flag? (op : Operation) (a b : UInt8) : Option Bool :=
  match op with
  | copy | or | and | xor => none
  | add => some (255 < a.toNat + b.toNat)
  | subtract => some (b ≤ a)
  | halve => some (b.toNat % 2 = 1)
  | subtractFrom => some (a ≤ b)
  | double => some (128 ≤ b)

end Operation

namespace Registers

/-- Writes the flag, if there is one, and then the result. -/
def writeResult (r : Registers) (x : Register) (flag? : Option Bool) (value : UInt8) : Registers :=
  match flag? with
  | none => r.write x value
  | some flag => (r.setFlag flag).write x value

end Registers

namespace Machine

/-- Combines VX and VY into VX, the arms from `SetXToY` to `LeftShift`. Both are read before
anything is written. -/
def combine (m : Machine) (op : Operation) (x y : Register) : Machine :=
  let a := m.readRegister x
  let b := m.readRegister y
  { m with registers := m.registers.writeResult x (op.flag? a b) (op.result a b) }

/-- Calls `target`, the arm of `SubroutineCall`. A call that does not fit on the stack is dropped
altogether. -/
def call (m : Machine) (target : UInt16) : Machine :=
  match m.stack.push? m.pc with
  | some stack => { m with stack := stack, pc := target }
  | none => m

/-- Returns from the latest call, the arm of `SubroutineReturn`; without one nothing happens. -/
def ret (m : Machine) : Machine :=
  match m.stack.pop? with
  | some (address, stack) => { m with stack := stack, pc := address }
  | none => m

/-- Puts the next random byte into `x`, keeping the bits of `mask`: the arm of `Random`. -/
def random (m : Machine) (x : Register) (mask : UInt8) : Machine :=
  let drawn := m.generator.nextByte
  { m.writeRegister x (drawn.1 &&& mask) with generator := drawn.2 }

/-- Draws `count` rows from the index register on, with the corner where VX and VY say: the arm of
`Draw`. The flag tells whether a lit pixel was turned off. -/
def draw (m : Machine) (x y : Register) (count : Nat) : Machine :=
  let sprite := m.memory.sprite m.index.toUInt64 count
  let drawn := m.screen.draw (m.readRegister x).toNat (m.readRegister y).toNat sprite
  { m with screen := drawn.1, registers := m.registers.setFlag drawn.2 }

/-- Puts the lowest key that is down into `x`, or steps back to ask again: the arm of
`WaitForKey`. -/
def awaitKey (m : Machine) (x : Register) : Machine :=
  match m.keypad.firstPressed with
  | some key => m.writeRegister x (UInt8.ofNat key.val)
  | none => { m with pc := m.pc - 2 }

/-- Writes values one after the other from the index register on. -/
def writeBlock (m : Machine) (values : List UInt8) : Machine :=
  let start := m.index.toUInt64
  let put (memory : Memory) (entry : UInt8 × Nat) : Memory :=
    memory.write (start + UInt64.ofNat entry.2) entry.1
  { m with memory := values.zipIdx.foldl put m.memory }

/-- The decimal digits of a byte: hundreds, tens and units, as `BinaryCodedDecimal` writes them. -/
def decimalDigits (value : UInt8) : List UInt8 := [value / 100, value / 10 % 10, value % 10]

/-- Moves the index register past `count` bytes. -/
def advanceIndex (m : Machine) (count : Nat) : Machine :=
  { m with index := m.index + UInt16.ofNat count }

/-- Writes V0 to `x` into memory, the arm of `Store`. -/
def store (m : Machine) (x : Register) : Machine :=
  (m.writeBlock (x.upTo.map m.readRegister)).advanceIndex (x.val + 1)

/-- Reads V0 to `x` from memory, the arm of `Load`. -/
def fetch (m : Machine) (x : Register) : Machine :=
  let get (registers : Registers) (y : Register) : Registers :=
    registers.write y (m.readIndexed (UInt64.ofNat y.val))
  { m with registers := x.upTo.foldl get m.registers }.advanceIndex (x.val + 1)

/-- The effect of an instruction (`Instruction::execute`). -/
def execute (m : Machine) : Instruction → Machine
  | .clear => { m with screen := m.screen.clear }
  | .ret => m.ret
  | .system _ => m
  | .jump t => { m with pc := UInt16.ofNat t.val }
  | .call t => m.call (UInt16.ofNat t.val)
  | .skipIf condition => if condition.holds m then m.skip else m
  | .setByte x nn => m.writeRegister x nn
  | .addByte x nn => m.writeRegister x (m.readRegister x + nn)
  | .combine op x y => m.combine op x y
  | .setIndex t => { m with index := UInt16.ofNat t.val }
  | .jumpPlus t => { m with pc := UInt16.ofNat t.val + (m.readRegister Register.first).toUInt16 }
  | .random x nn => m.random x nn
  | .draw x y n => m.draw x y n.val
  | .readDelay x => m.writeRegister x m.timers.delay
  | .awaitKey x => m.awaitKey x
  | .setDelay x => { m with timers := m.timers.setDelay (m.readRegister x) }
  | .setSound x => { m with timers := m.timers.setSound (m.readRegister x) }
  | .addIndex x => { m with index := m.index + (m.readRegister x).toUInt16 }
  | .pointGlyph x => { m with index := UInt16.ofNat (Glyph.address (m.readRegister x)) }
  | .storeDecimal x => m.writeBlock (decimalDigits (m.readRegister x))
  | .store x => m.store x
  | .fetch x => m.fetch x
  | .undefined _ => m

end Machine

/-! ## Branches -/

/-- Whether an instruction looks at the machine to decide between two effects. -/
def Instruction.branches : Instruction → Bool
  | ret | call _ | skipIf _ | awaitKey _ => true
  | _ => false

/-- Whatever a branch decides, it touches only the program counter and, each for one kind of
instruction, the stack and a register. -/
theorem Machine.execute_of_branches (m : Machine) {i : Instruction} (h : i.branches = true) :
    ∃ registers stack pc,
      m.execute i = { m with registers := registers, stack := stack, pc := pc } ∧
      (∀ r, registers.read r ≠ m.registers.read r → i = .awaitKey r) ∧
      (stack ≠ m.stack → i = .ret ∨ ∃ t, i = .call t) := by
  cases i with
  | ret =>
    rw [execute, Machine.ret]
    split
    · exact ⟨m.registers, _, _, rfl, fun r hr => absurd rfl hr, fun _ => .inl rfl⟩
    · exact ⟨m.registers, m.stack, m.pc, rfl, fun r hr => absurd rfl hr, fun _ => .inl rfl⟩
  | call t =>
    rw [execute, Machine.call]
    split
    · exact ⟨m.registers, _, _, rfl, fun r hr => absurd rfl hr, fun _ => .inr ⟨t, rfl⟩⟩
    · exact ⟨m.registers, m.stack, m.pc, rfl, fun r hr => absurd rfl hr, fun _ => .inr ⟨t, rfl⟩⟩
  | skipIf condition =>
    rw [execute]
    split
    · exact ⟨m.registers, m.stack, _, rfl, fun r hr => absurd rfl hr, fun hs => absurd rfl hs⟩
    · exact ⟨m.registers, m.stack, m.pc, rfl, fun r hr => absurd rfl hr, fun hs => absurd rfl hs⟩
  | awaitKey x =>
    rw [execute, Machine.awaitKey]
    split
    · next key _ =>
      refine ⟨_, m.stack, m.pc, rfl, fun r hr => ?_, fun hs => absurd rfl hs⟩
      by_cases hx : r = x
      · rw [hx]
      · exact absurd ((Registers.read_write _ _ _ _).trans (if_neg hx)) hr
    · exact ⟨m.registers, m.stack, _, rfl, fun r hr => absurd rfl hr, fun hs => absurd rfl hs⟩
  | _ => cases h

/-! ## The two-register operations in numbers -/

namespace Operation

theorem result_add (a b : UInt8) : (add.result a b).toNat = (a.toNat + b.toNat) % 256 := by
  simp [result]

theorem result_subtract (a b : UInt8) :
    (subtract.result a b).toNat = (256 + a.toNat - b.toNat) % 256 := by
  have := b.toNat_lt
  simp only [result, UInt8.toNat_sub]
  omega

theorem result_subtractFrom (a b : UInt8) :
    (subtractFrom.result a b).toNat = (256 + b.toNat - a.toNat) % 256 := by
  have := a.toNat_lt
  simp only [result, UInt8.toNat_sub]
  omega

theorem result_halve (a b : UInt8) : (halve.result a b).toNat = b.toNat / 2 := by
  simp [result, Nat.shiftRight_eq_div_pow]

theorem result_double (a b : UInt8) : (double.result a b).toNat = 2 * b.toNat % 256 := by
  simp [result, Nat.shiftLeft_eq, Nat.mul_comm]

end Operation

theorem Machine.combine_eq (m : Machine) (op : Operation) (x y : Register) {flag : Bool}
    (h : op.flag? (m.readRegister x) (m.readRegister y) = some flag) :
    (m.combine op x y).registers =
      (m.registers.setFlag flag).write x (op.result (m.readRegister x) (m.readRegister y)) := by
  simp [combine, h, Registers.writeResult]

end Chip8
