import Chip8.Register

/-!
# Instructions

Every 16-bit word is an instruction. Words that match no defined pattern are kept whole as
`undefined`, and they do nothing when executed.

In the patterns X and Y are register numbers, N, NN and NNN the last one, two and three hexadecimal
digits of the word.

Results:
* `ofCode?_code`: every two-register operation has its own last digit.
-/

namespace Chip8

/-- The last three digits of a word: an address below 4096. -/
abbrev Target := Fin 4096

/-- What a skip instruction asks. -/
inductive Condition
  /-- Pattern 3XNN: VX holds NN. -/
  | isByte (x : Register) (nn : UInt8)
  /-- Pattern 4XNN: VX does not hold NN. -/
  | isNotByte (x : Register) (nn : UInt8)
  /-- Pattern 5XY0: VX and VY hold the same value. -/
  | same (x y : Register)
  /-- Pattern 9XY0: VX and VY hold different values. -/
  | differ (x y : Register)
  /-- Pattern EX9E: the key whose number VX holds is down. -/
  | pressed (x : Register)
  /-- Pattern EXA1: the key whose number VX holds is not down. -/
  | released (x : Register)
deriving DecidableEq

/-- What the instructions 8XY_ put into VX, from `SetXToY` to `LeftShift`. -/
inductive Operation
  /-- Digit 0: the value of VY. -/
  | copy
  /-- Digit 1: the bits of either. -/
  | or
  /-- Digit 2: the bits of both. -/
  | and
  /-- Digit 3: the bits of exactly one. -/
  | xor
  /-- Digit 4: the sum; VF tells of a carry. -/
  | add
  /-- Digit 5: VX less VY; VF tells that nothing was borrowed. -/
  | subtract
  /-- Digit 6: half of VY; VF holds the bit that fell out. -/
  | halve
  /-- Digit 7: VY less VX; VF tells that nothing was borrowed. -/
  | subtractFrom
  /-- Digit E: twice VY; VF holds the bit that fell out. -/
  | double
deriving DecidableEq

namespace Operation

/-- The last digit of the operation's words. -/
def code : Operation → Nat
  | copy => 0x0
  | or => 0x1
  | and => 0x2
  | xor => 0x3
  | add => 0x4
  | subtract => 0x5
  | halve => 0x6
  | subtractFrom => 0x7
  | double => 0xE

/-- The operation that a last digit stands for. -/
def ofCode? : Nat → Option Operation
  | 0x0 => some copy
  | 0x1 => some or
  | 0x2 => some and
  | 0x3 => some xor
  | 0x4 => some add
  | 0x5 => some subtract
  | 0x6 => some halve
  | 0x7 => some subtractFrom
  | 0xE => some double
  | _ => none

theorem ofCode?_code (op : Operation) : ofCode? op.code = some op := by
  cases op <;> rfl

theorem code_of_ofCode? {n : Nat} {op : Operation} (h : ofCode? n = some op) : op.code = n := by
  unfold ofCode? at h
  split at h <;> simp_all <;> subst h <;> rfl

end Operation

/-- Model of `Instruction`. The six skips are one constructor with a condition, and so are the nine
operations on two registers. -/
inductive Instruction
  /-- Pattern 00E0: darken the screen. -/
  | clear
  /-- Pattern 00EE: return from the latest call. -/
  | ret
  /-- Pattern 0NNN: a routine of the host computer, which does nothing here. -/
  | system (target : Target)
  /-- Pattern 1NNN: go to NNN. -/
  | jump (target : Target)
  /-- Pattern 2NNN: go to NNN and remember where to return to. -/
  | call (target : Target)
  /-- Skip the next instruction if the condition holds. -/
  | skipIf (condition : Condition)
  /-- Pattern 6XNN: put NN into VX. -/
  | setByte (x : Register) (nn : UInt8)
  /-- Pattern 7XNN: add NN to VX, leaving VF alone. -/
  | addByte (x : Register) (nn : UInt8)
  /-- Patterns 8XY_: combine VX and VY into VX. -/
  | combine (operation : Operation) (x y : Register)
  /-- Pattern ANNN: put NNN into the index register. -/
  | setIndex (target : Target)
  /-- Pattern BNNN: go to NNN plus V0. -/
  | jumpPlus (target : Target)
  /-- Pattern CXNN: put a random byte into VX, keeping only the bits of NN. -/
  | random (x : Register) (nn : UInt8)
  /-- Pattern DXYN: draw the N rows at the index register with their corner at (VX, VY). -/
  | draw (x y : Register) (n : Fin 16)
  /-- Pattern FX07: read the delay timer into VX. -/
  | readDelay (x : Register)
  /-- Pattern FX0A: wait until a key is down and put its number into VX. -/
  | awaitKey (x : Register)
  /-- Pattern FX15: set the delay timer from VX. -/
  | setDelay (x : Register)
  /-- Pattern FX18: set the sound timer from VX. -/
  | setSound (x : Register)
  /-- Pattern FX1E: add VX to the index register. -/
  | addIndex (x : Register)
  /-- Pattern FX29: point the index register at the picture of the digit in VX. -/
  | pointGlyph (x : Register)
  /-- Pattern FX33: write the three decimal digits of VX from the index register on. -/
  | storeDecimal (x : Register)
  /-- Pattern FX55: write V0 to VX from the index register on and move the index past them. -/
  | store (x : Register)
  /-- Pattern FX65: read V0 to VX from the index register on and move the index past them. -/
  | fetch (x : Register)
  /-- Any other word. -/
  | undefined (word : UInt16)
deriving DecidableEq

namespace Instruction

/-! ## Reading a word

The fields are those of `DecodedInstruction`. -/

/-- The second digit of a word as a register. -/
def fieldX (word : UInt16) : Register := ⟨word.toNat / 256 % 16, Nat.mod_lt _ (by decide)⟩

/-- The third digit of a word as a register. -/
def fieldY (word : UInt16) : Register := ⟨word.toNat / 16 % 16, Nat.mod_lt _ (by decide)⟩

/-- The last digit of a word. -/
def fieldN (word : UInt16) : Fin 16 := ⟨word.toNat % 16, Nat.mod_lt _ (by decide)⟩

/-- The last two digits of a word. -/
def fieldNN (word : UInt16) : UInt8 := UInt8.ofNat (word.toNat % 256)

/-- The last three digits of a word. -/
def fieldNNN (word : UInt16) : Target := ⟨word.toNat % 4096, Nat.mod_lt _ (by decide)⟩

/-- The instruction of a word with first digit F, by its last two digits. -/
def ofWordF (word : UInt16) : Instruction :=
  let x := fieldX word
  match word.toNat % 256 with
  | 0x07 => readDelay x
  | 0x0A => awaitKey x
  | 0x15 => setDelay x
  | 0x18 => setSound x
  | 0x1E => addIndex x
  | 0x29 => pointGlyph x
  | 0x33 => storeDecimal x
  | 0x55 => store x
  | 0x65 => fetch x
  | _ => undefined word

/-- The instruction that a word means (`decode`). -/
def ofWord (word : UInt16) : Instruction :=
  let x := fieldX word
  let y := fieldY word
  let nn := fieldNN word
  let nnn := fieldNNN word
  match word.toNat / 4096 with
  | 0x0 =>
    match word.toNat with
    | 0x0E0 => clear
    | 0x0EE => ret
    | _ => system nnn
  | 0x1 => jump nnn
  | 0x2 => call nnn
  | 0x3 => skipIf (.isByte x nn)
  | 0x4 => skipIf (.isNotByte x nn)
  | 0x5 => if word.toNat % 16 = 0 then skipIf (.same x y) else undefined word
  | 0x6 => setByte x nn
  | 0x7 => addByte x nn
  | 0x8 =>
    match Operation.ofCode? (word.toNat % 16) with
    | some op => combine op x y
    | none => undefined word
  | 0x9 => if word.toNat % 16 = 0 then skipIf (.differ x y) else undefined word
  | 0xA => setIndex nnn
  | 0xB => jumpPlus nnn
  | 0xC => random x nn
  | 0xD => draw x y (fieldN word)
  | 0xE =>
    match word.toNat % 256 with
    | 0x9E => skipIf (.pressed x)
    | 0xA1 => skipIf (.released x)
    | _ => undefined word
  | 0xF => ofWordF word
  | _ => undefined word

/-! ## Writing a word -/

/-- The word with the given digits. -/
def wordOf (first second third fourth : Nat) : UInt16 :=
  UInt16.ofNat (first * 4096 + second * 256 + third * 16 + fourth)

/-- The word of an instruction: the inverse of `ofWord`. -/
def toWord : Instruction → UInt16
  | clear => 0x00E0
  | ret => 0x00EE
  | system t => wordOf 0x0 0 0 t.val
  | jump t => wordOf 0x1 0 0 t.val
  | call t => wordOf 0x2 0 0 t.val
  | skipIf (.isByte x nn) => wordOf 0x3 x.val 0 nn.toNat
  | skipIf (.isNotByte x nn) => wordOf 0x4 x.val 0 nn.toNat
  | skipIf (.same x y) => wordOf 0x5 x.val y.val 0
  | setByte x nn => wordOf 0x6 x.val 0 nn.toNat
  | addByte x nn => wordOf 0x7 x.val 0 nn.toNat
  | combine op x y => wordOf 0x8 x.val y.val op.code
  | skipIf (.differ x y) => wordOf 0x9 x.val y.val 0
  | setIndex t => wordOf 0xA 0 0 t.val
  | jumpPlus t => wordOf 0xB 0 0 t.val
  | random x nn => wordOf 0xC x.val 0 nn.toNat
  | draw x y n => wordOf 0xD x.val y.val n.val
  | skipIf (.pressed x) => wordOf 0xE x.val 0x9 0xE
  | skipIf (.released x) => wordOf 0xE x.val 0xA 0x1
  | readDelay x => wordOf 0xF x.val 0x0 0x7
  | awaitKey x => wordOf 0xF x.val 0x0 0xA
  | setDelay x => wordOf 0xF x.val 0x1 0x5
  | setSound x => wordOf 0xF x.val 0x1 0x8
  | addIndex x => wordOf 0xF x.val 0x1 0xE
  | pointGlyph x => wordOf 0xF x.val 0x2 0x9
  | storeDecimal x => wordOf 0xF x.val 0x3 0x3
  | store x => wordOf 0xF x.val 0x5 0x5
  | fetch x => wordOf 0xF x.val 0x6 0x5
  | undefined w => w

end Instruction

end Chip8
