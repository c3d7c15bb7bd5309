import Chip8.Proofs.Blocks
import Chip8.Proofs.Core
import Chip8.Proofs.Patterns
import Chip8.Proofs.Picture
import Chip8.Proofs.RandomDraws
import Chip8.Proofs.TimerHistory

/-!
# The footprint of a cycle

What a cycle can change hangs on the word that it executes, and for most words that is little. Each
part of the machine has a short list of patterns whose words touch it; every other word leaves it as
it is.

Results:
* `byteAt_execute`, `readRegister_execute`, `index_execute`, `stack_execute_ne`, `pc_execute`: the
  instructions that touch a part.
* `delay_cycle`, `sound_cycle`: a timer changes by its own write or by the tick.
* `execute_of_not_meaningful`: a word without meaning is passed over.
* `cycle_footprint`: all parts, by the word at the program counter.
-/

namespace Chip8

/-- Only these operations have a flag. -/
theorem Operation.pattern_of_flag? {op : Operation} {a b : UInt8} {flag : Bool}
    (h : op.flag? a b = some flag) : op.pattern ∈ ["8XY4", "8XY5", "8XY6", "8XY7", "8XYE"] := by
  cases op with
  | copy | or | and | xor => cases h
  | add | subtract | halve | subtractFrom | double => decide

namespace Machine

open Instruction (fieldX)

/-! ## Single instructions -/

theorem byteAt_execute {m : Machine} {i : Instruction} {a : Nat}
    (h : (m.execute i).memory.byteAt a ≠ m.memory.byteAt a) :
    (∃ x, i = .storeDecimal x ∧ m.index.toNat ≤ a ∧ a ≤ m.index.toNat + 2) ∨
      ∃ x, i = .store x ∧ m.index.toNat ≤ a ∧ a ≤ m.index.toNat + x.val := by
  by_cases hbranches : i.branches = true
  · obtain ⟨registers, stack, pc, hexecute, -⟩ := m.execute_of_branches hbranches
    rw [hexecute] at h
    exact absurd rfl h
  cases i with
  | storeDecimal x =>
    have hlength : (decimalDigits (m.readRegister x)).length = 3 := rfl
    have hblock := m.byteAt_writeBlock (decimalDigits (m.readRegister x)) (by omega) a
    by_cases hin : m.index.toNat ≤ a ∧ a < m.index.toNat + 3 ∧ a < 4096
    · exact .inl ⟨x, rfl, hin.1, by omega⟩
    · exact absurd (hblock.trans (if_neg hin)) h
  | store x =>
    by_cases hin : m.index.toNat ≤ a ∧ a < m.index.toNat + (x.val + 1) ∧ a < 4096
    · exact .inr ⟨x, rfl, hin.1, by omega⟩
    · exact absurd ((m.byteAt_store x a).trans (if_neg hin)) h
  | ret | call | skipIf | awaitKey => exact absurd rfl hbranches
  | _ => exact absurd rfl h

theorem index_execute {m : Machine} {i : Instruction} (h : (m.execute i).index ≠ m.index) :
    i.pattern ∈ ["ANNN", "FX1E", "FX29", "FX55", "FX65"] := by
  by_cases hbranches : i.branches = true
  · obtain ⟨registers, stack, pc, hexecute, -⟩ := m.execute_of_branches hbranches
    rw [hexecute] at h
    exact absurd rfl h
  cases i with
  | setIndex | addIndex | pointGlyph | store | fetch => simp [Instruction.pattern]
  | ret | call | skipIf | awaitKey => exact absurd rfl hbranches
  | _ => exact absurd rfl h

theorem readRegister_combine {m : Machine} {op : Operation} {x y r : Register}
    (h : (m.combine op x y).readRegister r ≠ m.readRegister r) :
    r = x ∨ r = Register.flag ∧ op.pattern ∈ ["8XY4", "8XY5", "8XY6", "8XY7", "8XYE"] := by
  by_cases hx : r = x
  · exact .inl hx
  · right
    simp only [combine, readRegister, Registers.writeResult] at h
    split at h
    · exact absurd ((Registers.read_write _ _ _ _).trans (if_neg hx)) h
    · next flag hflag =>
      rw [Registers.read_write, if_neg hx, Registers.setFlag, Registers.read_write] at h
      by_cases hr : r = Register.flag
      · exact ⟨hr, Operation.pattern_of_flag? hflag⟩
      · exact absurd (if_neg hr) h

theorem readRegister_execute {m : Machine} {i : Instruction} {r : Register}
    (h : (m.execute i).readRegister r ≠ m.readRegister r) :
    (i.register? = some r ∧
      i.pattern ∈ ["6XNN", "7XNN", "8XY0", "8XY1", "8XY2", "8XY3", "8XY4", "8XY5", "8XY6", "8XY7",
        "8XYE", "CXNN", "FX07", "FX0A"]) ∨
    (∃ x, i = .fetch x ∧ r ≤ x) ∨
    (r = Register.flag ∧ i.pattern ∈ ["8XY4", "8XY5", "8XY6", "8XY7", "8XYE", "DXYN"]) := by
  by_cases hbranches : i.branches = true
  · obtain ⟨registers, stack, pc, hexecute, hregisters, -⟩ := m.execute_of_branches hbranches
    rw [hexecute] at h
    have hi : i = .awaitKey r := hregisters r h
    rw [hi]
    exact .inl ⟨rfl, by simp [Instruction.pattern]⟩
  -- an instruction that writes a single register leaves the others alone
  have hsingle {x : Register} {value : UInt8}
      (hwrite : (m.registers.write x value).read r ≠ m.registers.read r) : some x = some r := by
    by_contra hne
    have hother : r ≠ x := fun hr => hne (congrArg some hr.symm)
    exact hwrite ((Registers.read_write _ _ _ _).trans (if_neg hother))
  cases i with
  | setByte x nn | addByte x nn | random x nn | readDelay x =>
    exact .inl ⟨hsingle h, by simp [Instruction.pattern]⟩
  | combine op x y =>
    rcases readRegister_combine h with rfl | ⟨hr, hflag⟩
    · refine .inl ⟨rfl, ?_⟩
      cases op <;> simp [Instruction.pattern, Operation.pattern]
    · exact .inr (.inr ⟨hr, List.mem_append_left ["DXYN"] hflag⟩)
  | draw x y n =>
    exact .inr (.inr ⟨(Option.some.inj (hsingle h)).symm, by simp [Instruction.pattern]⟩)
  | fetch x =>
    refine .inr (.inl ⟨x, rfl, ?_⟩)
    by_contra hr
    exact h ((readRegister_fetch m x r).trans (if_neg hr))
  | ret | call | skipIf | awaitKey => exact absurd rfl hbranches
  | _ => exact absurd rfl h

theorem stack_execute_ne {m : Machine} {i : Instruction} (h : (m.execute i).stack ≠ m.stack) :
    i.pattern ∈ ["2NNN", "00EE"] := by
  by_cases hbranches : i.branches = true
  · obtain ⟨registers, stack, pc, hexecute, -, hstack⟩ := m.execute_of_branches hbranches
    rw [hexecute] at h
    rcases hstack h with hi | ⟨t, hi⟩
    · simp [hi, Instruction.pattern]
    · simp [hi, Instruction.pattern]
  cases i with
  | ret | call | skipIf | awaitKey => exact absurd rfl hbranches
  | _ => exact absurd rfl h

theorem pc_execute (m : Machine) (i : Instruction) :
    (m.execute i).pc = m.pc ∨ (m.execute i).pc = m.pc + 2 ∨
      i.pattern ∈ ["1NNN", "2NNN", "BNNN", "00EE", "FX0A"] := by
  cases i with
  | skipIf condition =>
    simp only [execute]
    split
    · exact .inr (.inl rfl)
    · exact .inl rfl
  | jump | call | jumpPlus | ret | awaitKey => exact .inr (.inr (by simp [Instruction.pattern]))
  | _ => exact .inl rfl

theorem screen_execute_ne {m : Machine} {i : Instruction} (h : (m.execute i).screen ≠ m.screen) :
    i.pattern ∈ ["00E0", "DXYN"] := by
  cases hdraws : i.draws with
  | false => exact absurd (screen_execute hdraws m) h
  | true =>
    cases i with
    | clear | draw => simp [Instruction.pattern]
    | _ => cases hdraws

theorem generator_execute_ne {m : Machine} {i : Instruction}
    (h : (m.execute i).generator ≠ m.generator) : i.pattern = "CXNN" := by
  by_contra hpattern
  refine h (generator_execute_of_ne m fun x nn hi => hpattern ?_)
  rw [hi, Instruction.pattern]

/-- An instruction whose pattern has no meaning does nothing. -/
theorem execute_of_not_meaningful (m : Machine) {i : Instruction}
    (h : i.pattern ∉ Instruction.meaningful) : m.execute i = m := by
  cases i with
  | system | undefined => rfl
  | skipIf condition =>
    cases condition <;>
    · simp [Instruction.pattern, Condition.pattern, Instruction.meaningful] at h
  | combine op x y =>
    cases op <;>
    · simp [Instruction.pattern, Operation.pattern, Instruction.meaningful] at h
  | _ => simp [Instruction.pattern, Instruction.meaningful] at h

/-! ## The next cycle -/

theorem fitsAny_nextWord {m : Machine} {patterns : List String}
    (h : m.nextInstruction.pattern ∈ patterns) : fitsAny patterns m.nextWord = true :=
  List.any_eq_true.2 ⟨_, h, Instruction.fits_pattern m.nextWord⟩

theorem fits_nextWord {m : Machine} {i : Instruction} (h : m.nextInstruction = i) :
    fits i.pattern m.nextWord = true := by
  rw [← h]
  exact Instruction.fits_pattern m.nextWord

theorem fieldX_nextWord {m : Machine} {i : Instruction} {x : Register} (h : m.nextInstruction = i)
    (hx : i.register? = some x) : fieldX m.nextWord = x :=
  Instruction.fieldX_of_register? (by rw [← hx, ← h]; rfl)

/-- The next cycle writes to the byte at `a`, if memory has one: its word is FX33 or FX55, and the
address is among those that the word writes to from the index register on. -/
def WritesAt (m : Machine) (a : Nat) : Prop :=
  (fits "FX33" m.nextWord ∧ m.index.toNat ≤ a ∧ a ≤ m.index.toNat + 2) ∨
    (fits "FX55" m.nextWord ∧ m.index.toNat ≤ a ∧ a ≤ m.index.toNat + (fieldX m.nextWord).val)

instance (m : Machine) (a : Nat) : Decidable (m.WritesAt a) :=
  inferInstanceAs (Decidable (_ ∨ _))

theorem writesAt_of_ne {m : Machine} {a : Nat}
    (h : m.cycle.memory.byteAt a ≠ m.memory.byteAt a) : m.WritesAt a := by
  rcases byteAt_execute (m := m.skip) h with ⟨x, hi, hplace⟩ | ⟨x, hi, hplace⟩
  · exact .inl ⟨fits_nextWord hi, hplace⟩
  · rw [← fieldX_nextWord hi rfl] at hplace
    exact .inr ⟨fits_nextWord hi, hplace⟩

theorem readRegister_cycle_ne {m : Machine} {r : Register}
    (h : m.cycle.readRegister r ≠ m.readRegister r) :
    (r = fieldX m.nextWord ∧
      fitsAny ["6XNN", "7XNN", "8XY0", "8XY1", "8XY2", "8XY3", "8XY4", "8XY5", "8XY6", "8XY7",
        "8XYE", "CXNN", "FX07", "FX0A"] m.nextWord) ∨
    (r ≤ fieldX m.nextWord ∧ fits "FX65" m.nextWord) ∨
    (r = Register.flag ∧
      fitsAny ["8XY4", "8XY5", "8XY6", "8XY7", "8XYE", "DXYN"] m.nextWord) := by
  rcases readRegister_execute (m := m.skip) h with ⟨hr, hpattern⟩ | ⟨x, hi, hr⟩ | ⟨hr, hpattern⟩
  · exact .inl ⟨(fieldX_nextWord rfl hr).symm, fitsAny_nextWord hpattern⟩
  · rw [← fieldX_nextWord hi rfl] at hr
    exact .inr (.inl ⟨hr, fits_nextWord hi⟩)
  · exact .inr (.inr ⟨hr, fitsAny_nextWord hpattern⟩)

theorem delay_cycle {m : Machine}
    (h : m.cycle.timers.delay ≠ (m.timers.onCycle m.setup.cyclesPerTick).delay) :
    fits "FX15" m.nextWord = true := by
  by_contra hfits
  have hnone : m.delayWrite? = none := delayWrite?_of_ne fun x hi => hfits (fits_nextWord hi)
  apply h
  rw [timers_cycle, Timers.delay_onCycle, Timers.delay_onCycle]
  simp only [writtenTimers, hnone, Option.getD_none]

theorem sound_cycle {m : Machine}
    (h : m.cycle.timers.sound ≠ (m.timers.onCycle m.setup.cyclesPerTick).sound) :
    fits "FX18" m.nextWord = true := by
  by_contra hfits
  have hnone : m.soundWrite? = none := soundWrite?_of_ne fun x hi => hfits (fits_nextWord hi)
  apply h
  rw [timers_cycle, Timers.sound_onCycle, Timers.sound_onCycle]
  simp only [writtenTimers, hnone, Option.getD_none]

theorem phase_cycle (m : Machine) :
    m.cycle.timers.phase = (m.timers.onCycle m.setup.cyclesPerTick).phase := by
  rw [timers_cycle, Timers.phase_onCycle, Timers.phase_onCycle]
  rfl

/-- A cycle that does nothing else passes over its word and counts. -/
theorem cycle_of_execute {m : Machine} (h : m.skip.execute m.nextInstruction = m.skip) :
    m.cycle =
      { m with pc := m.pc + 2, timers := m.timers.onCycle m.setup.cyclesPerTick } := by
  rw [cycle, h]
  rfl

theorem cycle_of_not_meaningful {m : Machine}
    (h : fitsAny Instruction.meaningful m.nextWord = false) :
    m.cycle =
      { m with pc := m.pc + 2, timers := m.timers.onCycle m.setup.cyclesPerTick } := by
  refine cycle_of_execute (execute_of_not_meaningful _ fun hpattern => ?_)
  rw [fitsAny_nextWord hpattern] at h
  cases h

/-- A cycle touches the parts of the machine that its word is meant for, and nothing else. -/
theorem cycle_footprint (m : Machine) :
    (∀ a, m.cycle.memory.byteAt a ≠ m.memory.byteAt a →
      (fits "FX33" m.nextWord ∧ m.index.toNat ≤ a ∧ a ≤ m.index.toNat + 2) ∨
      (fits "FX55" m.nextWord ∧ m.index.toNat ≤ a ∧
        a ≤ m.index.toNat + (fieldX m.nextWord).val)) ∧
    (∀ r, m.cycle.readRegister r ≠ m.readRegister r →
      (r = fieldX m.nextWord ∧
        fitsAny ["6XNN", "7XNN", "8XY0", "8XY1", "8XY2", "8XY3", "8XY4", "8XY5", "8XY6", "8XY7",
          "8XYE", "CXNN", "FX07", "FX0A"] m.nextWord) ∨
      (r ≤ fieldX m.nextWord ∧ fits "FX65" m.nextWord) ∨
      (r = Register.flag ∧
        fitsAny ["8XY4", "8XY5", "8XY6", "8XY7", "8XYE", "DXYN"] m.nextWord)) ∧
    (m.cycle.index ≠ m.index → fitsAny ["ANNN", "FX1E", "FX29", "FX55", "FX65"] m.nextWord) ∧
    (m.cycle.stack ≠ m.stack → fitsAny ["2NNN", "00EE"] m.nextWord) ∧
    (m.cycle.screen ≠ m.screen → fitsAny ["00E0", "DXYN"] m.nextWord) ∧
    (m.cycle.generator ≠ m.generator → fits "CXNN" m.nextWord) ∧
    (m.cycle.timers.delay ≠ (m.timers.onCycle m.setup.cyclesPerTick).delay →
      fits "FX15" m.nextWord) ∧
    (m.cycle.timers.sound ≠ (m.timers.onCycle m.setup.cyclesPerTick).sound →
      fits "FX18" m.nextWord) ∧
    m.cycle.timers.phase = (m.timers.onCycle m.setup.cyclesPerTick).phase ∧
    m.cycle.keypad = m.keypad ∧ m.cycle.setup = m.setup ∧
    (m.cycle.pc = m.pc + 2 ∨ m.cycle.pc = m.pc + 4 ∨
      fitsAny ["1NNN", "2NNN", "BNNN", "00EE", "FX0A"] m.nextWord) ∧
    (fitsAny Instruction.meaningful m.nextWord = false ∨
        (fits "0NNN" m.nextWord ∧ m.nextWord ≠ 0x00E0 ∧ m.nextWord ≠ 0x00EE) →
      m.cycle =
        { m with pc := m.pc + 2, timers := m.timers.onCycle m.setup.cyclesPerTick }) := by
  refine ⟨fun a h => writesAt_of_ne h, fun r h => readRegister_cycle_ne h,
    fun h => fitsAny_nextWord (index_execute (m := m.skip) h),
    fun h => fitsAny_nextWord (stack_execute_ne (m := m.skip) h),
    fun h => fitsAny_nextWord (screen_execute_ne (m := m.skip) h), ?_,
    delay_cycle, sound_cycle, phase_cycle m, keypad_execute m.skip m.nextInstruction,
    setup_step .cycle m, ?_, ?_⟩
  · intro h
    rw [← generator_execute_ne (m := m.skip) h]
    exact Instruction.fits_pattern m.nextWord
  · have htwice : m.skip.pc + 2 = m.pc + 4 := UInt16.add_assoc m.pc 2 2
    rcases pc_execute m.skip m.nextInstruction with hnext | hskip | hpattern
    · exact .inl hnext
    · exact .inr (.inl (hskip.trans htwice))
    · exact .inr (.inr (fitsAny_nextWord hpattern))
  · rintro (hnone | ⟨hfits, hclear, hret⟩)
    · exact cycle_of_not_meaningful hnone
    · have hi : m.nextInstruction = .system (Instruction.fieldNNN m.nextWord) :=
        Instruction.ofWord_of_fits_system hfits hclear hret
      exact cycle_of_execute (by rw [hi]; rfl)

/-- The word 5121 has no meaning. And the store F155, with the index register at 0xFFF, changes the
last byte of memory, so it had to be a store. -/
theorem cycle_footprint_cases :
    let idle := (powerOn Setup.standard).load [0x51, 0x21]
    let storing :=
      { (powerOn Setup.standard).load [0xF1, 0x55] with
        index := 0xFFF, registers := Registers.initial.write 0 7 }
    (fitsAny Instruction.meaningful idle.nextWord = false ∧
      idle.cycle =
        { idle with pc := idle.pc + 2, timers := idle.timers.onCycle idle.setup.cyclesPerTick }) ∧
    storing.cycle.memory.byteAt 0xFFF ≠ storing.memory.byteAt 0xFFF ∧
    fits "FX55" storing.nextWord = true := by
  intro idle storing
  -- one evaluation for all, since each has to work out the memory at power-on
  have hwords : fitsAny Instruction.meaningful idle.nextWord = false ∧
      storing.cycle.memory.byteAt 0xFFF ≠ storing.memory.byteAt 0xFFF ∧
      ¬ fits "FX33" storing.nextWord = true := by
    decide +kernel
  obtain ⟨hidle, hchanged, hdigits⟩ := hwords
  refine ⟨⟨hidle, (cycle_footprint idle).2.2.2.2.2.2.2.2.2.2.2.2 (.inl hidle)⟩, hchanged, ?_⟩
  rcases (cycle_footprint storing).1 0xFFF hchanged with hdecimal | hblock
  · exact absurd hdecimal.1 hdigits
  · exact hblock.1

end Machine

end Chip8
