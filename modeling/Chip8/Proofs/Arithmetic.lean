import Chip8.Machine.Cycle
import Chip8.Proofs.Patterns

/-!
# Arithmetic with a flag

Five of the two-register operations leave a number in VX and a flag in VF. Both operands are read
before anything is written, and VX is written last. So it makes no difference to the number and to
the flag which of X, Y and F are the same register, except that no flag is left where X is F.

Results:
* `readRegister_combine_of_flag?`: every register after such an operation.
* `computes_combine`: the number and the flag, from what the operation gives for its operands.
* `flagged_operations`: the five operations in numbers.
-/

namespace Chip8.Machine

open Instruction (fieldX fieldY)

/-- From the first machine to the second the number `value` modulo 256 has come into VX, and into
VF, if that is another register, the flag for `condition`. The other registers are as they were. -/
structure Computes (m after : Machine) (x : Register) (value : Int) (condition : Prop) : Prop where
  result : ((after.readRegister x).toNat : Int) = value % 256
  flag_one : x ≠ Register.flag → condition → after.readRegister Register.flag = 1
  flag_zero : x ≠ Register.flag → ¬ condition → after.readRegister Register.flag = 0
  others : ∀ r, r ≠ x → r ≠ Register.flag → after.readRegister r = m.readRegister r

/-! ## One operation -/

/-- The flag and the result are those of the operands before, and the result is written over the
flag. -/
theorem readRegister_combine_of_flag? (m : Machine) {op : Operation} {x y : Register} {flag : Bool}
    (h : op.flag? (m.readRegister x) (m.readRegister y) = some flag) (r : Register) :
    (m.combine op x y).readRegister r =
      if r = x then op.result (m.readRegister x) (m.readRegister y)
      else if r = Register.flag then flag.toUInt8
      else m.readRegister r := by
  rw [readRegister, combine_eq m op x y h, Registers.read_write, Registers.setFlag,
    Registers.read_write]
  rfl

theorem computes_combine (m : Machine) {op : Operation} {x y : Register} {value : Int}
    {condition : Prop} [Decidable condition]
    (hresult : ((op.result (m.readRegister x) (m.readRegister y)).toNat : Int) = value % 256)
    (hflag : op.flag? (m.readRegister x) (m.readRegister y) = some (decide condition)) :
    m.Computes (m.combine op x y) x value condition := by
  have hread := m.readRegister_combine_of_flag? hflag
  refine ⟨?_, ?_, ?_, ?_⟩
  · rw [hread, if_pos rfl]
    exact hresult
  · intro hx hcondition
    rw [hread, if_neg (Ne.symm hx), if_pos rfl, decide_eq_true hcondition]
    rfl
  · intro hx hcondition
    rw [hread, if_neg (Ne.symm hx), if_pos rfl, decide_eq_false hcondition]
    rfl
  · intro r hx hflagged
    rw [hread, if_neg hx, if_neg hflagged]

/-- What the words 8XY_ of an operation do is said by its result and its flag. -/
theorem computes_of_fits (m : Machine) (op : Operation) {word : UInt16} {value : Int}
    {condition : Prop} [Decidable condition] (hword : fits op.pattern word = true)
    (hresult : ((op.result (m.readRegister (fieldX word)) (m.readRegister (fieldY word))).toNat
      : Int) = value % 256)
    (hflag : op.flag? (m.readRegister (fieldX word)) (m.readRegister (fieldY word)) =
      some (decide condition)) :
    m.Computes (m.execute (.ofWord word)) (fieldX word) value condition := by
  rw [Instruction.ofWord_of_fits_combine hword]
  exact m.computes_combine hresult hflag

/-! ## The five operations -/

theorem exists_operation_of_fitsAny {word : UInt16}
    (h : fitsAny ["8XY4", "8XY5", "8XY6", "8XY7", "8XYE"] word = true) :
    ∃ op : Operation, fits op.pattern word = true := by
  obtain ⟨pattern, hmem, hfits⟩ := List.any_eq_true.1 h
  simp only [List.mem_cons, List.not_mem_nil, or_false] at hmem
  rcases hmem with rfl | rfl | rfl | rfl | rfl
  · exact ⟨.add, hfits⟩
  · exact ⟨.subtract, hfits⟩
  · exact ⟨.halve, hfits⟩
  · exact ⟨.subtractFrom, hfits⟩
  · exact ⟨.double, hfits⟩

/-- Executing a word of pattern 8XY4 to 8XY7 or 8XYE, whatever the registers hold and whichever of
X, Y and F are the same: `a` and `b` being the numbers in VX and VY before, VX holds their sum,
their difference, half of `b`, their difference the other way or twice `b`, modulo 256. VF, unless X
is F, tells of a carry, that nothing was borrowed, or which bit fell out. Nothing else is changed,
but that a cycle with such a word also moves the program counter past it and lets the timers count.
-/
theorem flagged_operations (m : Machine) (word : UInt16) :
    let x := fieldX word
    let a := (m.readRegister x).toNat
    let b := (m.readRegister (fieldY word)).toNat
    let after := m.execute (.ofWord word)
    (fits "8XY4" word → m.Computes after x (a + b) (a + b > 255)) ∧
    (fits "8XY5" word → m.Computes after x (a - b) (a ≥ b)) ∧
    (fits "8XY6" word → m.Computes after x (b / 2) (b % 2 = 1)) ∧
    (fits "8XY7" word → m.Computes after x (b - a) (b ≥ a)) ∧
    (fits "8XYE" word → m.Computes after x (2 * b) (b ≥ 128)) ∧
    (fitsAny ["8XY4", "8XY5", "8XY6", "8XY7", "8XYE"] word →
      after = { m with registers := after.registers } ∧
      (m.nextWord = word →
        m.cycle =
          { after with
            pc := m.pc + 2, timers := m.timers.onCycle m.setup.cyclesPerTick })) := by
  intro x a b after
  have ha : a < 256 := (m.readRegister x).toNat_lt
  have hb : b < 256 := (m.readRegister (fieldY word)).toNat_lt
  refine ⟨fun h => ?_, fun h => ?_, fun h => ?_, fun h => ?_, fun h => ?_, fun h => ?_⟩
  · have hsum := Operation.result_add (m.readRegister x) (m.readRegister (fieldY word))
    exact m.computes_of_fits .add h (by rw [hsum]; omega) rfl
  · have hdifference := Operation.result_subtract (m.readRegister x) (m.readRegister (fieldY word))
    exact m.computes_of_fits .subtract h (by rw [hdifference]; omega) rfl
  · have hhalf := Operation.result_halve (m.readRegister x) (m.readRegister (fieldY word))
    exact m.computes_of_fits .halve h (by rw [hhalf]; omega) rfl
  · have hdifference :=
      Operation.result_subtractFrom (m.readRegister x) (m.readRegister (fieldY word))
    exact m.computes_of_fits .subtractFrom h (by rw [hdifference]; omega) rfl
  · have hdouble := Operation.result_double (m.readRegister x) (m.readRegister (fieldY word))
    exact m.computes_of_fits .double h (by rw [hdouble]; omega) rfl
  · obtain ⟨op, hop⟩ := exists_operation_of_fitsAny h
    have hi := Instruction.ofWord_of_fits_combine hop
    have hafter : after = m.execute (.combine op x (fieldY word)) := congrArg m.execute hi
    rw [hafter]
    refine ⟨rfl, fun hnext => ?_⟩
    rw [cycle, nextInstruction, hnext, hi]
    rfl

/-- VA is 100 and VF is 200. The flag register is the second operand, the first one, and both; and
VA is both. -/
theorem flagged_operations_aliased :
    let a := Register.ofByte 0xA
    let m : Machine :=
      { powerOn Setup.standard with
        registers := (Registers.initial.write a 100).write Register.flag 200 }
    let after (word : UInt16) := m.execute (.ofWord word)
    ((fits "8XY5" 0x8AF5 = true ∧ ((after 0x8AF5).readRegister a).toNat = 156 ∧
      (after 0x8AF5).readRegister Register.flag = 0) ∧
    (fits "8XYE" 0x8AFE = true ∧ ((after 0x8AFE).readRegister a).toNat = 144 ∧
      (after 0x8AFE).readRegister Register.flag = 1)) ∧
    (fits "8XY4" 0x8FA4 = true ∧ ((after 0x8FA4).readRegister Register.flag).toNat = 44) ∧
    (fits "8XY6" 0x8FF6 = true ∧ ((after 0x8FF6).readRegister Register.flag).toNat = 100) ∧
    (fits "8XY7" 0x8AA7 = true ∧ ((after 0x8AA7).readRegister a).toNat = 0 ∧
      (after 0x8AA7).readRegister Register.flag = 1) := by
  intro a m after
  have hdifference := (flagged_operations m 0x8AF5).2.1 (by decide)
  have hdouble := (flagged_operations m 0x8AFE).2.2.2.2.1 (by decide)
  have hsum := (flagged_operations m 0x8FA4).1 (by decide)
  have hhalf := (flagged_operations m 0x8FF6).2.2.1 (by decide)
  have hnothing := (flagged_operations m 0x8AA7).2.2.2.1 (by decide)
  refine ⟨⟨⟨by decide, ?_, ?_⟩, by decide, ?_, ?_⟩, ⟨by decide, ?_⟩, ⟨by decide, ?_⟩, by decide, ?_,
    ?_⟩
  · exact Int.ofNat.inj (hdifference.result.trans (by decide +kernel))
  · exact hdifference.flag_zero (by decide) (by decide +kernel)
  · exact Int.ofNat.inj (hdouble.result.trans (by decide +kernel))
  · exact hdouble.flag_one (by decide) (by decide +kernel)
  · exact Int.ofNat.inj (hsum.result.trans (by decide +kernel))
  · exact Int.ofNat.inj (hhalf.result.trans (by decide +kernel))
  · exact Int.ofNat.inj (hnothing.result.trans (by decide +kernel))
  · exact hnothing.flag_one (by decide) (by decide +kernel)

end Chip8.Machine
