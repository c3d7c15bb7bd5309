import Chip8.Machine
import Chip8.Proofs.Checked.Fault

/-!
# The parts of the machine, step by step

Stack, timers, memory and registers on bare arrays and numbers: nothing in their types rules out a
depth above twelve, a tick of no cycles or a phase past its end. Each operation is spelled out in
accesses, sums and divisions that can fail.

Results:
* `push_of`, `pop_of`: on a stack with at most twelve addresses no access fails.
* `onCycle_of`: nor does a count while the phase is below the length of a tick.
* `initialMemory_eq`, `loadMemory_eq`, `sprite_eq`: nor does the memory of power-on, a program load
  or the reading of a sprite.
-/

namespace Chip8.Checked

/-! ## The stack -/

/-- Twelve slots and any number: `CallStack`. -/
structure Stack where
  slots : Vector UInt16 12
  depth : Nat

namespace Stack

def of (s : ReturnStack) : Stack := { slots := s.slots, depth := s.depth }

/-- Puts an address on top (`CallStack::push`); the flag tells whether there was room for it. -/
def push (s : Stack) (address : UInt16) : Outcome (Stack × Bool) :=
  if ReturnStack.capacity ≤ s.depth then .ok (s, false)
  else do
    let slots ← set s.slots s.depth address
    let depth ← add UInt64.size s.depth 1
    .ok ({ slots := slots, depth := depth }, true)

/-- Takes the address on top, if there is one (`CallStack::pop`). -/
def pop (s : Stack) : Outcome (Stack × Option UInt16) :=
  if s.depth = 0 then .ok (s, none)
  else do
    let depth ← subtract s.depth 1
    let address ← get s.slots depth
    .ok ({ s with depth := depth }, some address)

theorem push_of (s : ReturnStack) (address : UInt16) :
    (of s).push address =
      .ok (match s.push? address with
        | some pushed => (of pushed, true)
        | none => (of s, false)) := by
  unfold push ReturnStack.push?
  by_cases h : s.depth < 12
  · have hset := set_of_lt s.slots h address
    have hadd : add UInt64.size s.depth 1 = .ok (s.depth + 1) := add_of_small (by omega)
    have hroom : ¬ ReturnStack.capacity ≤ (of s).depth := Nat.not_le.2 h
    rw [if_neg hroom, dif_pos h]
    simp only [of, hset, hadd, ok_bind]
  · have hfull : ReturnStack.capacity ≤ (of s).depth := Nat.not_lt.1 h
    rw [if_pos hfull, dif_neg h]

theorem pop_of (s : ReturnStack) :
    (of s).pop =
      .ok (match s.pop? with
        | some (address, popped) => (of popped, some address)
        | none => (of s, none)) := by
  have hle := s.depth_le
  unfold pop ReturnStack.pop?
  by_cases h : 0 < s.depth
  · have hsub : subtract s.depth 1 = .ok (s.depth - 1) := subtract_of_le h
    have hplace : s.depth - 1 < 12 := by omega
    have hget := get_of_lt s.slots hplace
    have hopen : ¬ (of s).depth = 0 := Nat.pos_iff_ne_zero.1 h
    rw [if_neg hopen, dif_pos h]
    simp only [of, hsub, hget, ok_bind]
  · have hempty : (of s).depth = 0 := Nat.eq_zero_of_not_pos h
    rw [if_pos hempty, dif_neg h]

-- A stack that counts more addresses than it has slots meets a fault.
example : pop { slots := Vector.replicate 12 0, depth := 13 } = .error (.outside 12 12) := rfl

end Stack

/-! ## The timers -/

/-- The timers with a length of the tick of their own. -/
structure Timers where
  delay : UInt8
  sound : UInt8
  cyclesPerTick : UInt32
  phase : UInt32

namespace Timers

def of (cyclesPerTick : UInt32) (t : Chip8.Timers) : Timers :=
  { delay := t.delay, sound := t.sound, cyclesPerTick := cyclesPerTick, phase := t.phase }

/-- Counts one cycle in 32 bits (`Timers::on_cycle`). -/
def onCycle (t : Timers) : Outcome Timers := do
  let count ← add UInt32.size t.phase.toNat 1
  let phase ← remainder count t.cyclesPerTick.toNat
  if phase = 0 then
    .ok { t with
      delay := Chip8.Timers.countDown t.delay
      sound := Chip8.Timers.countDown t.sound
      phase := 0 }
  else .ok { t with phase := UInt32.ofNat phase }

/-- Even with the longest tick the count fits its bits, for it stops before the end of the tick. -/
theorem onCycle_of {cyclesPerTick : UInt32} {t : Chip8.Timers} (h : t.phase < cyclesPerTick) :
    (of cyclesPerTick t).onCycle = .ok (of cyclesPerTick (t.onCycle cyclesPerTick)) := by
  have hphase := Chip8.Timers.toNat_phase_onCycle h
  rw [Chip8.Timers.phase_onCycle] at hphase
  rw [UInt32.lt_iff_toNat_lt] at h
  have hsize : cyclesPerTick.toNat < UInt32.size := cyclesPerTick.toNat_lt
  have hadd : add UInt32.size t.phase.toNat 1 = .ok (t.phase.toNat + 1) := add_of_lt (by omega)
  have hrem := remainder_of_ne (a := t.phase.toNat + 1) (b := cyclesPerTick.toNat) (by omega)
  unfold onCycle Chip8.Timers.onCycle
  simp only [of, hadd, hrem, ok_bind]
  rw [← hphase]
  by_cases hzero : (t.phase + 1) % cyclesPerTick = 0
  · rw [if_pos hzero, hzero]
    rfl
  · have hne : ((t.phase + 1) % cyclesPerTick).toNat ≠ 0 :=
      fun h0 => hzero (UInt32.toNat_inj.1 h0)
    rw [if_neg hzero, if_neg hne, UInt32.ofNat_toNat]

-- A phase that has left its tick meets a fault in the end, and so does a tick of no cycles.
example : onCycle { delay := 0, sound := 0, cyclesPerTick := 7, phase := 0xFFFFFFFF } =
    .error .overflow := rfl

example : onCycle { delay := 0, sound := 0, cyclesPerTick := 0, phase := 0 } =
    .error .zeroDivisor := rfl

end Timers

/-! ## The registers -/

def readRegister (r : Registers) (x : Register) : Outcome UInt8 := get r.values x.val

def writeRegister (r : Registers) (x : Register) (value : UInt8) : Outcome Registers := do
  let values ← set r.values x.val value
  .ok { values := values }

theorem readRegister_eq (r : Registers) (x : Register) : readRegister r x = .ok (r.read x) :=
  get_of_lt _ x.isLt

theorem writeRegister_eq (r : Registers) (x : Register) (value : UInt8) :
    writeRegister r x value = .ok (r.write x value) := by
  rw [writeRegister, set_of_lt _ x.isLt, ok_bind]
  rfl

/-! ## The memory -/

/-- Zeros with the table of digits copied in (`Memory::new`). -/
def initialMemory : Outcome Memory := do
  let stop ← add UInt64.size Glyph.base Glyph.table.length
  let bytes ← copyInto (Vector.replicate 4096 0) Glyph.base stop Glyph.table
  .ok { bytes := bytes }

/-- Copies the part of an image that fits to the program start (`Memory::load_rom`). -/
def loadMemory (memory : Memory) (image : List UInt8) : Outcome Memory := do
  let wanted ← add UInt64.size Memory.programStart image.length
  let stop := min wanted Memory.size
  let stored ← subtract stop Memory.programStart
  let part ← slice image 0 stored
  let bytes ← copyInto memory.bytes Memory.programStart stop part
  .ok { bytes := bytes }

/-- The bytes of a sprite, cut out between two places of memory (`Memory::read_sprite`). The sum of
start and count stops at the largest address. -/
def sprite (memory : Memory) (start count : Nat) : Outcome (List UInt8) :=
  slice memory.bytes.toList (min start Memory.size)
    (min (min (start + count) (UInt64.size - 1)) Memory.size)

theorem byteAt_overwritten (bytes : Vector UInt8 4096) (start : Nat) (source : List UInt8)
    (n : Nat) :
    Memory.byteAt { bytes := overwritten bytes start source } n =
      if start ≤ n ∧ n < start + source.length ∧ n < 4096 then source.getD (n - start) 0
      else Memory.byteAt { bytes := bytes } n := by
  simp only [Memory.byteAt, getElem?_overwritten]
  split
  · rw [List.getD_eq_getElem?_getD]
  · rfl

theorem initialMemory_eq : initialMemory = .ok Memory.initial := by
  have hadd : add UInt64.size Glyph.base Glyph.table.length = .ok 0x200 := by
    rw [← Glyph.base_add_length_table]
    exact add_of_lt (by decide)
  have hcopy : copyInto (Vector.replicate 4096 0) Glyph.base 0x200 Glyph.table =
      .ok (overwritten (Vector.replicate 4096 0) Glyph.base Glyph.table) :=
    copyInto_of_le _ (by decide) (by decide) (by decide)
  rw [initialMemory, hadd, ok_bind, hcopy, ok_bind]
  refine congrArg Except.ok ?_
  apply Memory.ext_byteAt
  intro n
  rw [byteAt_overwritten, Memory.initial, Memory.byteAt_overlay]

/-- The images that there can be are shorter than half of the address space, so the end of an image
has an address. -/
theorem loadMemory_eq (memory : Memory) {image : List UInt8}
    (h : image.length < UInt64.size / 2) : loadMemory memory image = .ok (memory.load image) := by
  have hfits : Memory.capacityFor image.length ≤ image.length := Nat.min_le_left _ _
  have hroom : Memory.programStart + Memory.capacityFor image.length ≤ 4096 := by
    simp only [Memory.programStart, Memory.capacityFor, Memory.size]
    omega
  have hstop : min (Memory.programStart + image.length) Memory.size =
      Memory.programStart + Memory.capacityFor image.length := by
    simp only [Memory.capacityFor, Memory.size, Memory.programStart]
    omega
  have hlength : (image.take (Memory.capacityFor image.length)).length =
      Memory.capacityFor image.length := by
    rw [List.length_take, Nat.min_eq_left hfits]
  have hadd : add UInt64.size Memory.programStart image.length =
      .ok (Memory.programStart + image.length) :=
    add_of_lt (by simp only [UInt64.size, Memory.programStart] at *; omega)
  have hsub : subtract (Memory.programStart + Memory.capacityFor image.length)
      Memory.programStart = .ok (Memory.capacityFor image.length) := by
    rw [subtract_of_le (Nat.le_add_right _ _), Nat.add_sub_cancel_left]
  have hslice : slice image 0 (Memory.capacityFor image.length) =
      .ok (image.take (Memory.capacityFor image.length)) := by
    rw [slice_of_le image (Nat.zero_le _) hfits, List.drop_zero, Nat.sub_zero]
  have hcopy := copyInto_of_le memory.bytes (Nat.le_add_right _ _) hroom
    (by rw [hlength, Nat.add_sub_cancel_left])
  simp only [loadMemory, hadd, hstop, hsub, hslice, hcopy, ok_bind]
  refine congrArg Except.ok ?_
  apply Memory.ext_byteAt
  intro n
  rw [byteAt_overwritten, Memory.byteAt_load, hlength]
  by_cases hn : Memory.programStart ≤ n ∧ n < Memory.programStart + Memory.capacityFor image.length
  · rw [if_pos ⟨hn.1, hn.2, by omega⟩, if_pos hn, List.getD_eq_getElem?_getD,
      List.getD_eq_getElem?_getD, List.getElem?_take_of_lt (by omega)]
  · rw [if_neg (fun hc => hn ⟨hc.1, hc.2.1⟩), if_neg hn]

/-- Wherever the sprite begins, its piece lies inside memory. -/
theorem sprite_eq (memory : Memory) (start : Address) (count : Nat) :
    sprite memory start.toNat count = .ok (memory.sprite start count) := by
  have hstart : start.toNat < UInt64.size := start.toNat_lt
  have hlength : memory.bytes.toList.length = 4096 := memory.bytes.length_toList
  have hsize : (4096 : Nat) < UInt64.size := by decide
  rw [sprite, slice_of_le _ (by simp only [Memory.size]; omega)
    (by simp only [Memory.size]; omega)]
  refine congrArg Except.ok ?_
  apply List.ext_getElem?
  intro k
  rw [Memory.getElem?_sprite]
  simp only [Memory.size]
  by_cases hk : k < min count (4096 - start.toNat)
  · have hplace : min start.toNat 4096 + k = start.toNat + k := by omega
    rw [if_pos hk, List.getElem?_take_of_lt (by omega), List.getElem?_drop, hplace,
      Memory.byteAt_of_lt memory (by omega), List.getElem?_eq_getElem (by omega),
      Vector.getElem_toList]
  · rw [if_neg hk]
    apply List.getElem?_eq_none
    rw [List.length_take, List.length_drop]
    omega

end Chip8.Checked
