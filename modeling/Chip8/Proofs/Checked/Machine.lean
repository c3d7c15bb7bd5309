import Chip8.Proofs.Checked.Drawing
import Chip8.Proofs.Checked.Parts
import Chip8.Proofs.History

/-!
# The machine, step by step

Instructions and cycles on the checked parts. Every access, sum and division that an instruction
makes is spelled out, so a state in which one of them has no result would stop the machine with a
fault.

Results:
* `storeFrom_of`, `fetchFrom_of`: no sum of index register and offset leaves its bits.
* `execute_of`: no instruction meets a fault, whatever state it finds.
* `cycle_of`: nor does a cycle while the phase is below the length of a tick.
-/

namespace Chip8.Checked

structure Machine where
  setup : Setup
  memory : Memory
  registers : Registers
  pc : UInt16
  index : UInt16
  stack : Stack
  timers : Timers
  picture : Picture
  keypad : Keypad
  generator : Random.Generator

namespace Machine

def of (m : Chip8.Machine) : Machine :=
  { setup := m.setup
    memory := m.memory
    registers := m.registers
    pc := m.pc
    index := m.index
    stack := Stack.of m.stack
    timers := Timers.of m.setup.cyclesPerTick m.timers
    picture := Picture.of m.screen
    keypad := m.keypad
    generator := m.generator }

/-! ## Registers and memory -/

def read (m : Machine) (x : Register) : Outcome UInt8 := readRegister m.registers x

def write (m : Machine) (x : Register) (value : UInt8) : Outcome Machine := do
  let registers ← writeRegister m.registers x value
  .ok { m with registers := registers }

def setFlag (m : Machine) (flag : Bool) : Outcome Machine :=
  m.write Register.flag (if flag then 1 else 0)

/-- The address `offset` bytes past the index register, in `read_indexed` and `write_indexed`. -/
def indexed (m : Machine) (offset : Nat) : Outcome Address := do
  let place ← add UInt64.size m.index.toNat offset
  .ok (UInt64.ofNat place)

/-- Writes values one after the other, the first one `offset` bytes past the index register. -/
def writeFrom (m : Machine) (offset : Nat) : List UInt8 → Outcome Machine
  | [] => .ok m
  | value :: rest => do
    let address ← m.indexed offset
    writeFrom { m with memory := m.memory.write address value } (offset + 1) rest

/-- Writes registers into memory, the first one `offset` bytes past the index register. -/
def storeFrom (m : Machine) (offset : Nat) : List Register → Outcome Machine
  | [] => .ok m
  | x :: rest => do
    let value ← m.read x
    let address ← m.indexed offset
    storeFrom { m with memory := m.memory.write address value } (offset + 1) rest

/-- Reads registers from memory, the first one `offset` bytes past the index register. -/
def fetchFrom (m : Machine) (offset : Nat) : List Register → Outcome Machine
  | [] => .ok m
  | x :: rest => do
    let address ← m.indexed offset
    let next ← m.write x (m.memory.read address)
    fetchFrom next (offset + 1) rest

/-- Moves the index register past the bytes of the registers up to `x`. -/
def advance (m : Machine) (x : Register) : Outcome Machine := do
  let count ← add UInt16.size x.val 1
  .ok { m with index := m.index + UInt16.ofNat count }

/-! ## Instructions -/

def skip (m : Machine) : Machine := { m with pc := m.pc + 2 }

def holds (m : Machine) : Condition → Outcome Bool
  | .isByte x nn => do
    let a ← m.read x
    .ok (a == nn)
  | .isNotByte x nn => do
    let a ← m.read x
    .ok (a != nn)
  | .same x y => do
    let a ← m.read x
    let b ← m.read y
    .ok (a == b)
  | .differ x y => do
    let a ← m.read x
    let b ← m.read y
    .ok (a != b)
  | .pressed x => do
    let a ← m.read x
    .ok (m.keypad.isPressed a)
  | .released x => do
    let a ← m.read x
    .ok !m.keypad.isPressed a

def combine (m : Machine) (op : Operation) (x y : Register) : Outcome Machine := do
  let a ← m.read x
  let b ← m.read y
  match op.flag? a b with
  | none => m.write x (op.result a b)
  | some flag =>
    let flagged ← m.setFlag flag
    flagged.write x (op.result a b)

def call (m : Machine) (target : UInt16) : Outcome Machine := do
  let pushed ← m.stack.push m.pc
  if pushed.2 then .ok { m with stack := pushed.1, pc := target } else .ok m

def ret (m : Machine) : Outcome Machine := do
  let popped ← m.stack.pop
  match popped.2 with
  | some address => .ok { m with stack := popped.1, pc := address }
  | none => .ok m

def random (m : Machine) (x : Register) (mask : UInt8) : Outcome Machine := do
  let drawn := m.generator.nextByte
  let next ← m.write x (drawn.1 &&& mask)
  .ok { next with generator := drawn.2 }

/-- The flag is taken down before the sprite is drawn, and put up again if a pixel was turned
off. -/
def draw (m : Machine) (x y : Register) (count : Nat) : Outcome Machine := do
  let column ← m.read x
  let line ← m.read y
  let flagged ← m.setFlag false
  let rows ← sprite flagged.memory flagged.index.toNat count
  let drawn ← flagged.picture.draw column.toNat line.toNat rows
  let shown := { flagged with picture := drawn.1 }
  if drawn.2 then shown.setFlag true else .ok shown

def awaitKey (m : Machine) (x : Register) : Outcome Machine :=
  match m.keypad.firstPressed with
  | some key => m.write x (UInt8.ofNat key.val)
  | none => .ok { m with pc := m.pc - 2 }

def pointGlyph (m : Machine) (x : Register) : Outcome Machine := do
  let digit ← m.read x
  let offset ← multiply UInt64.size digit.toNat Glyph.height
  let address ← add UInt64.size Glyph.base offset
  .ok { m with index := UInt16.ofNat address }

/-- The effect of an instruction (`Instruction::execute`). -/
def execute (m : Machine) : Instruction → Outcome Machine
  | .clear => .ok { m with picture := m.picture.clear }
  | .ret => m.ret
  | .system _ => .ok m
  | .jump t => .ok { m with pc := UInt16.ofNat t.val }
  | .call t => m.call (UInt16.ofNat t.val)
  | .skipIf condition => do
    let met ← m.holds condition
    if met then .ok m.skip else .ok m
  | .setByte x nn => m.write x nn
  | .addByte x nn => do
    let a ← m.read x
    m.write x (a + nn)
  | .combine op x y => m.combine op x y
  | .setIndex t => .ok { m with index := UInt16.ofNat t.val }
  | .jumpPlus t => do
    let a ← m.read Register.first
    .ok { m with pc := UInt16.ofNat t.val + a.toUInt16 }
  | .random x nn => m.random x nn
  | .draw x y n => m.draw x y n.val
  | .readDelay x => m.write x m.timers.delay
  | .awaitKey x => m.awaitKey x
  | .setDelay x => do
    let a ← m.read x
    .ok { m with timers := { m.timers with delay := a } }
  | .setSound x => do
    let a ← m.read x
    if 1 < a then .ok { m with timers := { m.timers with sound := a } } else .ok m
  | .addIndex x => do
    let a ← m.read x
    .ok { m with index := m.index + a.toUInt16 }
  | .pointGlyph x => m.pointGlyph x
  | .storeDecimal x => do
    let a ← m.read x
    m.writeFrom 0 (Chip8.Machine.decimalDigits a)
  | .store x => do
    let stored ← m.storeFrom 0 x.upTo
    stored.advance x
  | .fetch x => do
    let fetched ← m.fetchFrom 0 x.upTo
    fetched.advance x
  | .undefined _ => .ok m

/-! ## Cycles -/

def nextInstruction (m : Machine) : Instruction :=
  Instruction.ofWord (m.memory.readWord m.pc.toUInt64)

/-- Fetches, executes and counts (`execute_cycle`). -/
def cycle (m : Machine) : Outcome Machine := do
  let next ← m.skip.execute m.nextInstruction
  let timers ← next.timers.onCycle
  .ok { next with timers := timers }

/-! ## Registers and memory have no faults -/

theorem read_of (m : Chip8.Machine) (x : Register) : (of m).read x = .ok (m.readRegister x) :=
  readRegister_eq m.registers x

theorem write_of (m : Chip8.Machine) (x : Register) (value : UInt8) :
    (of m).write x value = .ok (of (m.writeRegister x value)) := by
  have hwrite := writeRegister_eq m.registers x value
  simp only [write, of, hwrite, ok_bind]
  rfl

theorem setFlag_of (m : Chip8.Machine) (flag : Bool) :
    (of m).setFlag flag = .ok (of { m with registers := m.registers.setFlag flag }) :=
  write_of m Register.flag _

/-- The sum of a 16-bit index and a small offset is far from the end of the addresses. -/
theorem indexed_of (m : Chip8.Machine) {offset : Nat} (h : offset ≤ 16) :
    (of m).indexed offset = .ok (m.indexed (UInt64.ofNat offset)) := by
  have hindex := m.index.toNat_lt
  have hadd : add UInt64.size m.index.toNat offset = .ok (m.index.toNat + offset) :=
    add_of_small (by omega)
  have hword : UInt64.ofNat m.index.toNat = m.index.toUInt64 := by
    rw [← UInt16.toNat_toUInt64, UInt64.ofNat_toNat]
  simp only [indexed, of, hadd, ok_bind, UInt64.ofNat_add, hword]
  rfl

/-- The memory that results when values are written from an address on. -/
def written (start : Address) (memory : Memory) (entries : List (UInt8 × Nat)) : Memory :=
  entries.foldl (fun memory entry => memory.write (start + UInt64.ofNat entry.2) entry.1) memory

theorem writeFrom_of (m : Chip8.Machine) {offset : Nat} {values : List UInt8}
    (h : offset + values.length ≤ 16) :
    (of m).writeFrom offset values =
      .ok (of { m with memory := written m.index.toUInt64 m.memory (values.zipIdx offset) }) := by
  induction values generalizing m offset with
  | nil => rfl
  | cons value rest ih =>
    rw [List.length_cons] at h
    have hoffset : offset ≤ 16 := by omega
    rw [writeFrom, indexed_of m hoffset, ok_bind]
    exact ih (m.writeIndexed (UInt64.ofNat offset) value) (by omega)

theorem storeFrom_of (m : Chip8.Machine) {offset : Nat} {registers : List Register}
    (h : offset + registers.length ≤ 16) :
    (of m).storeFrom offset registers =
      .ok (of { m with
        memory := written m.index.toUInt64 m.memory
          ((registers.map m.readRegister).zipIdx offset) }) := by
  induction registers generalizing m offset with
  | nil => rfl
  | cons x rest ih =>
    rw [List.length_cons] at h
    have hoffset : offset ≤ 16 := by omega
    rw [storeFrom, read_of, ok_bind, indexed_of m hoffset, ok_bind]
    exact ih (m.writeIndexed (UInt64.ofNat offset) (m.readRegister x)) (by omega)

/-- Registers that are read from memory stand as far from the first one as their bytes do. -/
theorem fetchFrom_of (m : Chip8.Machine) {offset : Nat} {registers : List Register}
    (h : offset + registers.length ≤ 16)
    (hplaces : ∀ entry ∈ registers.zipIdx offset, entry.1.val = entry.2) :
    (of m).fetchFrom offset registers =
      .ok (of { m with
        registers := registers.foldl
          (fun bank x => bank.write x (m.readIndexed (UInt64.ofNat x.val))) m.registers }) := by
  induction registers generalizing m offset with
  | nil => rfl
  | cons x rest ih =>
    rw [List.length_cons] at h
    rw [List.zipIdx_cons] at hplaces
    have hoffset : offset ≤ 16 := by omega
    have hplace : x.val = offset := hplaces (x, offset) List.mem_cons_self
    have hread : (of m).memory.read (m.indexed (UInt64.ofNat offset)) =
        m.readIndexed (UInt64.ofNat x.val) := by
      rw [hplace]
      rfl
    rw [fetchFrom, indexed_of m hoffset, ok_bind, hread, write_of, ok_bind]
    apply ih (m.writeRegister x (m.readIndexed (UInt64.ofNat x.val))) (by omega)
    intro entry hentry
    exact hplaces entry (List.mem_cons_of_mem _ hentry)

theorem upTo_places (x : Register) : ∀ entry ∈ x.upTo.zipIdx, entry.1.val = entry.2 := by
  revert x
  decide

theorem length_decimalDigits (value : UInt8) :
    (Chip8.Machine.decimalDigits value).length = 3 := rfl

theorem length_upTo_le (x : Register) : 0 + x.upTo.length ≤ 16 := by
  rw [Register.length_upTo, Nat.zero_add]
  exact x.isLt

theorem advance_of (m : Chip8.Machine) (x : Register) :
    (of m).advance x = .ok (of (m.advanceIndex (x.val + 1))) := by
  have hadd : add UInt16.size x.val 1 = .ok (x.val + 1) :=
    add_of_lt (by simp only [UInt16.size]; omega)
  rw [advance, hadd, ok_bind]
  rfl

/-! ## Instructions have no faults -/

theorem holds_of (m : Chip8.Machine) (condition : Condition) :
    (of m).holds condition = .ok (condition.holds m) := by
  cases condition <;> simp only [holds, read_of, ok_bind] <;> rfl

theorem combine_of (m : Chip8.Machine) (op : Operation) (x y : Register) :
    (of m).combine op x y = .ok (of (m.combine op x y)) := by
  rw [combine, read_of, ok_bind, read_of, ok_bind, Chip8.Machine.combine]
  cases op.flag? (m.readRegister x) (m.readRegister y) with
  | none => exact write_of m x _
  | some flag =>
    simp only [setFlag_of, ok_bind]
    exact write_of _ x _

theorem call_of (m : Chip8.Machine) (target : UInt16) :
    (of m).call target = .ok (of (m.call target)) := by
  have hpush := Stack.push_of m.stack m.pc
  unfold call Chip8.Machine.call
  cases h : m.stack.push? m.pc with
  | none =>
    rw [h] at hpush
    simp only [of, hpush, ok_bind, Bool.false_eq_true, if_false]
  | some pushed =>
    rw [h] at hpush
    simp only [of, hpush, ok_bind, if_true]

theorem ret_of (m : Chip8.Machine) : (of m).ret = .ok (of m.ret) := by
  have hpop := Stack.pop_of m.stack
  unfold ret Chip8.Machine.ret
  cases h : m.stack.pop? with
  | none =>
    rw [h] at hpop
    simp only [of, hpop, ok_bind]
  | some popped =>
    rw [h] at hpop
    simp only [of, hpop, ok_bind]

theorem picture_of (m : Chip8.Machine) : (of m).picture = Picture.of m.screen := rfl

theorem random_of (m : Chip8.Machine) (x : Register) (mask : UInt8) :
    (of m).random x mask = .ok (of (m.random x mask)) := by
  have hwrite := write_of m x (m.generator.nextByte.1 &&& mask)
  have hgenerator : (of m).generator = m.generator := rfl
  simp only [random, hgenerator, hwrite, ok_bind]
  rfl

theorem setFlag_setFlag (r : Registers) (first second : Bool) :
    (r.setFlag first).setFlag second = r.setFlag second := by
  apply Registers.ext_read
  intro x
  simp only [Registers.setFlag, Registers.read_write]
  split <;> rfl

theorem draw_of (m : Chip8.Machine) (x y : Register) (count : Nat) :
    (of m).draw x y count = .ok (of (m.draw x y count)) := by
  have hsprite := sprite_eq m.memory m.index.toUInt64 count
  rw [UInt16.toNat_toUInt64] at hsprite
  have hdraw := Picture.draw_of m.screen (m.readRegister x).toNat (m.readRegister y).toNat
    (m.memory.sprite m.index.toUInt64 count)
  rw [draw, read_of, ok_bind, read_of, ok_bind, setFlag_of, ok_bind]
  dsimp only [of]
  rw [hsprite, ok_bind, hdraw, ok_bind, Chip8.Machine.draw]
  cases (m.screen.draw (m.readRegister x).toNat (m.readRegister y).toNat
    (m.memory.sprite m.index.toUInt64 count)) with
  | mk screen hit =>
    cases hit with
    | false => rfl
    | true =>
      have hflag := setFlag_of
        { m with screen := screen, registers := m.registers.setFlag false } true
      rw [setFlag_setFlag] at hflag
      exact hflag

theorem awaitKey_of (m : Chip8.Machine) (x : Register) :
    (of m).awaitKey x = .ok (of (m.awaitKey x)) := by
  have hkeypad : (of m).keypad = m.keypad := rfl
  unfold awaitKey Chip8.Machine.awaitKey
  rw [hkeypad]
  cases m.keypad.firstPressed with
  | none => rfl
  | some key => exact write_of m x _

/-- A byte times the height of a digit is small. -/
theorem pointGlyph_of (m : Chip8.Machine) (x : Register) :
    (of m).pointGlyph x = .ok (of (m.execute (.pointGlyph x))) := by
  have hdigit := (m.readRegister x).toNat_lt
  have hmultiply : multiply UInt64.size (m.readRegister x).toNat Glyph.height =
      .ok ((m.readRegister x).toNat * Glyph.height) :=
    multiply_of_small (by simp only [Glyph.height]; omega)
  have hadd : add UInt64.size Glyph.base ((m.readRegister x).toNat * Glyph.height) =
      .ok (Glyph.base + (m.readRegister x).toNat * Glyph.height) :=
    add_of_small (by simp only [Glyph.base, Glyph.height]; omega)
  rw [pointGlyph, read_of, ok_bind, hmultiply, ok_bind, hadd, ok_bind]
  rfl

theorem store_of (m : Chip8.Machine) (x : Register) :
    (of m).execute (.store x) = .ok (of (m.execute (.store x))) := by
  rw [execute, storeFrom_of m (length_upTo_le x), ok_bind, advance_of]
  rfl

theorem fetch_of (m : Chip8.Machine) (x : Register) :
    (of m).execute (.fetch x) = .ok (of (m.execute (.fetch x))) := by
  rw [execute, fetchFrom_of m (length_upTo_le x) (upTo_places x), ok_bind, advance_of]
  rfl

theorem setSound_of (m : Chip8.Machine) (x : Register) :
    (of m).execute (.setSound x) = .ok (of (m.execute (.setSound x))) := by
  rw [execute, read_of, ok_bind, Chip8.Machine.execute, Chip8.Timers.setSound]
  by_cases h : 1 < m.readRegister x
  · rw [if_pos h, if_pos h]
    rfl
  · rw [if_neg h, if_neg h]

/-- No instruction meets a fault, and the checked parts change as the machine does. -/
theorem execute_of (m : Chip8.Machine) (i : Instruction) :
    (of m).execute i = .ok (of (m.execute i)) := by
  cases i with
  | clear =>
    rw [execute, picture_of, Picture.clear_of]
    rfl
  | ret => exact ret_of m
  | system | undefined | jump | setIndex => rfl
  | call t => exact call_of m _
  | skipIf condition =>
    rw [execute, holds_of, ok_bind, Chip8.Machine.execute]
    cases condition.holds m <;> rfl
  | setByte x nn => exact write_of m x nn
  | addByte x nn =>
    rw [execute, read_of, ok_bind, write_of]
    rfl
  | combine op x y => exact combine_of m op x y
  | jumpPlus | addIndex | setDelay =>
    rw [execute, read_of, ok_bind]
    rfl
  | random x nn => exact random_of m x nn
  | draw x y n => exact draw_of m x y n.val
  | readDelay x => exact write_of m x m.timers.delay
  | awaitKey x => exact awaitKey_of m x
  | setSound x => exact setSound_of m x
  | pointGlyph x => exact pointGlyph_of m x
  | storeDecimal x =>
    have hroom : 0 + (Chip8.Machine.decimalDigits (m.readRegister x)).length ≤ 16 := by
      rw [length_decimalDigits]
      decide
    rw [execute, read_of, ok_bind, writeFrom_of m hroom]
    rfl
  | store x => exact store_of m x
  | fetch x => exact fetch_of m x

/-! ## Cycles have no faults -/

/-- The count of cycles has room for one more as long as the phase is below the length of a
tick. -/
theorem cycle_of {m : Chip8.Machine} (h : m.InTick) : (of m).cycle = .ok (of m.cycle) := by
  have hskip : (of m).skip = of m.skip := rfl
  have hnext : (of m).nextInstruction = m.nextInstruction := rfl
  have htimers (n : Chip8.Machine) :
      (of n).timers = Timers.of n.setup.cyclesPerTick n.timers := rfl
  have hcount := Timers.onCycle_of (Chip8.Machine.inTick_execute (m := m.skip) h m.nextInstruction)
  rw [cycle, hskip, hnext, execute_of, ok_bind, htimers, hcount, ok_bind]
  rfl

end Machine

end Chip8.Checked
