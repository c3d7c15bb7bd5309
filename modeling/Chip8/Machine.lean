import Chip8.Keypad
import Chip8.Memory
import Chip8.Random.Generator
import Chip8.Register
import Chip8.ReturnStack
import Chip8.Screen
import Chip8.Timers

/-!
# The machine

Everything a running program can see or change, gathered in one value. What the parts do is in their
own modules; here they are put together, reached through the index register, and reset.

Results:
* `readIndexed_eq`: an indexed read is a read at the sum of index register and offset.
* `reset_eq_powerOn`: a reset forgets everything but the setup.
-/

namespace Chip8

/-- The state that a program runs on: `Chip8State` with its `Config`. -/
structure Machine where
  setup : Setup
  memory : Memory
  registers : Registers
  /-- The program counter. -/
  pc : UInt16
  /-- The index register. -/
  index : UInt16
  stack : ReturnStack
  timers : Timers
  screen : Screen
  keypad : Keypad
  generator : Random.Generator
deriving DecidableEq

namespace Machine

/-- The state right after switching on, before any program is loaded (`Chip8State::new`). -/
def powerOn (setup : Setup) : Machine :=
  { setup := setup
    memory := Memory.initial
    registers := Registers.initial
    pc := UInt16.ofNat Memory.programStart
    index := 0
    stack := ReturnStack.empty
    timers := Timers.initial
    screen := Screen.initial
    keypad := Keypad.released
    generator := Random.Generator.ofSeed (setup.seed.getD 0) }

/-- Switches off and on again: only the setup is kept (`Chip8State::reset`). -/
def reset (m : Machine) : Machine := powerOn m.setup

/-! ## Parts -/

/-- The address `offset` bytes past the index register, in `read_indexed` and `write_indexed`. The
sum is one of 64-bit words, so it leaves the 16 bits of the index register without wrapping. -/
def indexed (m : Machine) (offset : Address) : Address := m.index.toUInt64 + offset

/-- Model of `Chip8State::read_indexed`. -/
def readIndexed (m : Machine) (offset : Address) : UInt8 := m.memory.read (m.indexed offset)

/-- Model of `Chip8State::write_indexed`. -/
def writeIndexed (m : Machine) (offset : Address) (value : UInt8) : Machine :=
  { m with memory := m.memory.write (m.indexed offset) value }

def readRegister (m : Machine) (x : Register) : UInt8 := m.registers.read x

def writeRegister (m : Machine) (x : Register) (value : UInt8) : Machine :=
  { m with registers := m.registers.write x value }

/-- Passes over one instruction (`Chip8State::skip`). -/
def skip (m : Machine) : Machine := { m with pc := m.pc + 2 }

/-- Puts an image at the program start (`load_program_bytes`). -/
def load (m : Machine) (image : List UInt8) : Machine := { m with memory := m.memory.load image }

/-- Takes a snapshot of the keys, if it is one of sixteen keys (`set_keypad_state`). -/
def latch? (m : Machine) (snapshot : List Bool) : Option Machine :=
  (Keypad.ofSnapshot? snapshot).map fun keypad => { m with keypad := keypad }

/-- The picture has been shown (`acknowledge_render_done`). -/
def acknowledge (m : Machine) : Machine := { m with screen := m.screen.acknowledge }

/-- The picture is still to be shown (`is_render_due`). -/
def isDue (m : Machine) : Bool := m.screen.due

/-- Model of `is_sound_active`. -/
def isSounding (m : Machine) : Bool := m.timers.isSounding

/-- The word at the program counter, which `fetch_instruction` decodes. -/
def nextWord (m : Machine) : UInt16 := m.memory.readWord m.pc.toUInt64

theorem readIndexed_eq (m : Machine) (offset : Address) :
    m.readIndexed offset = m.memory.byteAt (m.index.toUInt64 + offset).toNat := by
  simp [readIndexed, indexed, Memory.read_eq_byteAt]

theorem reset_eq_powerOn (m : Machine) : m.reset = powerOn m.setup := rfl

end Machine

end Chip8
