import Chip8.Proofs.CycleLog
import Chip8.Proofs.Footprint

/-!
# The digits in memory

The pictures of the sixteen digits lie in memory below the program area, where no load reaches. Only
a program can overwrite them, with a store whose window meets the table. As long as none does, the
word FX29 points at the picture of the digit that VX holds, and drawing five rows from there flips
the pixels under that picture.

Results:
* `digitsIntact_cycle`, `digitsIntact_through`: the table keeps its bytes until a store meets it.
* `index_pointGlyph`: where FX29 points, whatever VX holds.
* `sprite_of_digitsIntact`: what a drawing finds there.
* `digits_drawn`: the pixels that FX29 and a drawing leave, after any run.
-/

namespace Chip8

variable {ε : Type}

theorem Glyph.length_rows (d : Fin 16) : (rows d).length = 5 := by
  revert d
  decide

namespace Machine

open Instruction (fieldX fieldY fieldN)

/-! ## The table -/

/-- The table of digits has the bytes that it had at power-on. -/
def DigitsIntact (m : Machine) : Prop :=
  ∀ k < 80, m.memory.byteAt (Glyph.base + k) = Glyph.table.getD k 0

/-- The next cycle is a store whose window, from the index register on, meets the table of
digits. -/
def WritesDigits (m : Machine) : Prop :=
  (fits "FX33" m.nextWord ∧ m.index.toNat ≤ 0x1FF ∧ 0x1B0 ≤ m.index.toNat + 2) ∨
    (fits "FX55" m.nextWord ∧ m.index.toNat ≤ 0x1FF ∧
      0x1B0 ≤ m.index.toNat + (fieldX m.nextWord).val)

instance (m : Machine) : Decidable m.WritesDigits := inferInstanceAs (Decidable (_ ∨ _))

theorem writesDigits_of_writesAt {m : Machine} {a : Nat} (h : m.WritesAt a) (hlow : 0x1B0 ≤ a)
    (hhigh : a ≤ 0x1FF) : m.WritesDigits := by
  rcases h with ⟨hword, hfrom, hto⟩ | ⟨hword, hfrom, hto⟩
  · exact .inl ⟨hword, by omega, by omega⟩
  · exact .inr ⟨hword, by omega, by omega⟩

theorem digitsIntact_powerOn (setup : Setup) : (powerOn setup).DigitsIntact := by
  intro k hk
  have hplace : 0x1B0 ≤ Glyph.base + k ∧ Glyph.base + k < 0x200 := by
    simp only [Glyph.base]
    omega
  have hinitial := Memory.byteAt_initial (Glyph.base + k)
  rw [if_pos hplace] at hinitial
  rw [show Glyph.base + k - 0x1B0 = k from Nat.add_sub_cancel_left _ _] at hinitial
  exact hinitial

/-- Images lie above the table. -/
theorem digitsIntact_load {m : Machine} (h : m.DigitsIntact) (image : List UInt8) :
    (m.load image).DigitsIntact := by
  intro k hk
  have hbelow : ¬ (Memory.programStart ≤ Glyph.base + k ∧
      Glyph.base + k < Memory.programStart + Memory.capacityFor image.length) := by
    simp only [Memory.programStart, Glyph.base]
    omega
  exact ((Memory.byteAt_load _ _ _).trans (if_neg hbelow)).trans (h k hk)

theorem digitsIntact_cycle {m : Machine} (h : m.DigitsIntact) (hmiss : ¬ m.WritesDigits) :
    m.cycle.DigitsIntact := by
  intro k hk
  rw [← h k hk]
  by_contra hchanged
  have hhigh : Glyph.base + k ≤ 0x1FF := by
    simp only [Glyph.base]
    omega
  exact hmiss (writesDigits_of_writesAt (writesAt_of_ne hchanged) (Nat.le_add_right _ _) hhigh)

theorem digitsIntact_step {log : List Machine} {m : Machine} (s : Step)
    (h : (∀ before ∈ log, ¬ before.WritesDigits) → m.DigitsIntact)
    (hmiss : ∀ before ∈ m.logged log s, ¬ before.WritesDigits) : (m.step s).DigitsIntact := by
  cases s with
  | cycle =>
    have hlog : ∀ before ∈ log, ¬ before.WritesDigits :=
      fun before hbefore => hmiss before (List.mem_append_left _ hbefore)
    exact digitsIntact_cycle (h hlog) (hmiss m (List.mem_append_right _ List.mem_cons_self))
  | reset => exact digitsIntact_powerOn m.setup
  | load image => exact digitsIntact_load (h hmiss) image
  | hold | acknowledge | reseed => exact h hmiss

theorem digitsIntact_through (setup : Setup) (steps : List Step)
    (hmiss : ∀ before ∈ (powerOn setup).log steps, ¬ before.WritesDigits) :
    ((powerOn setup).through steps).DigitsIntact :=
  log_induction
    (P := fun log m => (∀ before ∈ log, ¬ before.WritesDigits) → m.DigitsIntact)
    (fun s _ _ h hlogged => digitsIntact_step s h hlogged) (fun _ => digitsIntact_powerOn setup)
    steps hmiss

/-! ## Pointing and drawing -/

/-- Every value of VX has its own place, those above 15 past the table. -/
theorem index_pointGlyph (m : Machine) (x : Register) :
    (m.execute (.pointGlyph x)).index.toNat = 0x1B0 + 5 * (m.readRegister x).toNat := by
  have hplace : (m.execute (.pointGlyph x)).index =
      UInt16.ofNat (Glyph.address (m.readRegister x)) := rfl
  rw [hplace, UInt16.toNat_ofNat', Nat.mod_eq_of_lt (Glyph.address_lt _), Glyph.address,
    Glyph.base, Glyph.height, Nat.mul_comm]

theorem sprite_of_digitsIntact {m : Machine} (h : m.DigitsIntact) (d : Fin 16) {index : UInt16}
    (hindex : index.toNat = 0x1B0 + 5 * d.val) :
    m.memory.sprite index.toUInt64 5 = Glyph.rows d := by
  have hstart : index.toUInt64.toNat = Glyph.base + 5 * d.val :=
    (UInt16.toNat_toUInt64 _).trans hindex
  apply List.ext_getElem?
  intro k
  rw [Memory.getElem?_sprite, hstart]
  by_cases hk : k < 5
  · have hin : k < min 5 (4096 - (Glyph.base + 5 * d.val)) := by
      simp only [Glyph.base]
      omega
    have hbyte := h (5 * d.val + k) (by omega)
    have hrow := Glyph.getElem?_table d ⟨k, hk⟩
    rw [if_pos hin, Nat.add_assoc, hbyte, List.getD_eq_getElem?_getD, hrow,
      List.getElem?_eq_getElem (by rw [Glyph.length_rows]; exact hk), Option.getD_some]
  · rw [if_neg (by omega), List.getElem?_eq_none (by rw [Glyph.length_rows]; omega)]

/-- FX29 and a drawing of five rows flip the pixels under the picture of the digit. -/
theorem pixel_of_digitsIntact {m : Machine} (h : m.DigitsIntact) {x : Register} {d : Fin 16}
    (hd : (m.readRegister x).toNat = d.val) (y z : Register) (cx cy : Nat) :
    ((m.execute (.pointGlyph x)).execute (.draw y z 5)).screen.bitmap.pixel cx cy =
      (m.screen.bitmap.pixel cx cy ^^
        (decide (cx < 64) && decide (cy < 32) && decide ((m.readRegister y).toNat % 64 ≤ cx) &&
          decide ((m.readRegister z).toNat % 32 ≤ cy) &&
          Bitmap.spriteBit (Glyph.rows d) (cx - (m.readRegister y).toNat % 64)
            (cy - (m.readRegister z).toNat % 32))) := by
  have hindex := index_pointGlyph m x
  rw [hd] at hindex
  have hsprite := sprite_of_digitsIntact h d hindex
  rw [← Bitmap.pixel_drawRows, ← hsprite]
  rfl

/-- After any steps from power-on, with stores that miss the table of digits since the last reset:
executing a word FX29 where VX holds a digit, and then a word DXYN of five rows, flips the pixels
under the picture of the digit, whose upper left corner is where the drawing has its own, and no
others. The same holds when the next two cycles execute such words. And whatever VX holds, FX29
makes the index register 0x1B0 plus five times the value. -/
theorem digits_drawn (setup : Setup) :
    (∀ steps : List Step,
      (∀ before ∈ (powerOn setup).log steps, ¬ before.WritesDigits) →
      let m := (powerOn setup).through steps
      ∀ point draw : UInt16, fits "FX29" point → fits "DXYN" draw → (fieldN draw).val = 5 →
      ∀ d : Fin 16, (m.readRegister (fieldX point)).toNat = d.val →
      let left := (m.readRegister (fieldX draw)).toNat % 64
      let top := (m.readRegister (fieldY draw)).toNat % 32
      let flipped (cx cy : Nat) : Bool := decide (left ≤ cx) && decide (top ≤ cy) &&
        Bitmap.spriteBit (Glyph.rows d) (cx - left) (cy - top)
      (∀ cx < 64, ∀ cy < 32,
        ((m.execute (.ofWord point)).execute (.ofWord draw)).screen.bitmap.pixel cx cy =
          (m.screen.bitmap.pixel cx cy ^^ flipped cx cy)) ∧
      (m.nextWord = point → m.cycle.nextWord = draw → ∀ cx < 64, ∀ cy < 32,
        (m.cycles 2).screen.bitmap.pixel cx cy =
          (m.screen.bitmap.pixel cx cy ^^ flipped cx cy))) ∧
    (∀ (m : Machine) (point : UInt16), fits "FX29" point →
      (m.execute (.ofWord point)).index.toNat =
        0x1B0 + 5 * (m.readRegister (fieldX point)).toNat) ∧
    ∀ history : List (Action ε),
      (powerOn setup).after history =
        (powerOn setup).through ((powerOn setup).stepsIn history) := by
  refine ⟨?_, ?_, after_eq_through_stepsIn _⟩
  · intro steps hmiss m point draw hpoint hdraw hfive d hd left top flipped
    have hintact : m.DigitsIntact := digitsIntact_through setup steps hmiss
    have hwords : Instruction.ofWord point = .pointGlyph (fieldX point) ∧
        Instruction.ofWord draw = .draw (fieldX draw) (fieldY draw) 5 := by
      have hrows : fieldN draw = 5 := Fin.ext hfive
      exact ⟨Instruction.ofWord_of_fits_pointGlyph hpoint,
        hrows ▸ Instruction.ofWord_of_fits_draw hdraw⟩
    have hpixel : ∀ cx < 64, ∀ cy < 32,
        ((m.execute (.ofWord point)).execute (.ofWord draw)).screen.bitmap.pixel cx cy =
          (m.screen.bitmap.pixel cx cy ^^ flipped cx cy) := by
      intro cx hcx cy hcy
      rw [hwords.1, hwords.2, pixel_of_digitsIntact hintact hd, decide_eq_true hcx,
        decide_eq_true hcy, Bool.true_and, Bool.true_and]
    refine ⟨hpixel, ?_⟩
    intro hfirst hsecond cx hcx cy hcy
    rw [← hpixel cx hcx cy hcy]
    have hcycle : m.cycle = (m.skip.execute (.ofWord point)).countCycle := by
      rw [cycle, nextInstruction, hfirst]
    have hcycles : m.cycles 2 = (m.cycle.skip.execute (.ofWord draw)).countCycle := by
      rw [← hsecond]
      rfl
    rw [hcycles, hcycle, hwords.1, hwords.2]
    rfl
  · intro m point hpoint
    rw [Instruction.ofWord_of_fits_pointGlyph hpoint]
    exact index_pointGlyph m (fieldX point)

/-- The digit A in the lower right corner, where only two of its columns and two of its rows have
room; a reset, a load and a store elsewhere come before. And the place of a digit 0xFF. -/
theorem digits_drawn_corner :
    let code : List UInt8 :=
      [0x60, 0x0A, 0xA3, 0x00, 0xF0, 0x55, 0x61, 0xFE, 0xF0, 0x29, 0xD1, 0x15]
    let steps : List Step := [.cycle, .reset, .load code, .cycle, .cycle, .cycle, .cycle]
    let m := (powerOn Setup.standard).through steps
    let large := { m with registers := m.registers.write 0 0xFF }
    (∀ before ∈ (powerOn Setup.standard).log steps, ¬ before.WritesDigits) ∧
    m.nextWord = 0xF029 ∧ m.cycle.nextWord = 0xD115 ∧
    (m.cycles 2).screen.bitmap.pixel 62 30 = true ∧
    (m.cycles 2).screen.bitmap.pixel 63 30 = true ∧
    (m.cycles 2).screen.bitmap.pixel 62 31 = true ∧
    (m.cycles 2).screen.bitmap.pixel 63 31 = false ∧
    (m.cycles 2).screen.bitmap.pixel 0 30 = false ∧
    (large.execute (.ofWord 0xF029)).index.toNat = 0x6AB := by
  intro code steps m large
  -- one evaluation for all, since each has to work out the memory at power-on
  have hstate : (∀ before ∈ (powerOn Setup.standard).log steps, ¬ before.WritesDigits) ∧
      m.nextWord = 0xF029 ∧ m.cycle.nextWord = 0xD115 ∧
      (m.readRegister (fieldX 0xF029)).toNat = (0xA : Fin 16).val ∧
      (m.readRegister (fieldX 0xD115)).toNat = 0xFE ∧
      (m.readRegister (fieldY 0xD115)).toNat = 0xFE ∧
      m.screen.bitmap = Bitmap.dark := by
    decide +kernel
  obtain ⟨hmiss, hfirst, hsecond, hdigit, hx, hy, hdark⟩ := hstate
  obtain ⟨hdrawn, hplace, -⟩ := @digits_drawn String Setup.standard
  have hpixels := (hdrawn steps hmiss 0xF029 0xD115 (by decide) (by decide) (by decide) 0xA
    hdigit).2 hfirst hsecond
  rw [hx, hy, hdark] at hpixels
  have hlarge : large.readRegister (fieldX 0xF029) = 0xFF :=
    (Registers.read_write m.registers 0 (fieldX 0xF029) 0xFF).trans (if_pos (by decide))
  refine ⟨hmiss, hfirst, hsecond, ?_, ?_, ?_, ?_, ?_, ?_⟩
  · exact (hpixels 62 (by decide) 30 (by decide)).trans (by decide)
  · exact (hpixels 63 (by decide) 30 (by decide)).trans (by decide)
  · exact (hpixels 62 (by decide) 31 (by decide)).trans (by decide)
  · exact (hpixels 63 (by decide) 31 (by decide)).trans (by decide)
  · exact (hpixels 0 (by decide) 30 (by decide)).trans (by decide)
  · rw [hplace large 0xF029 (by decide), hlarge]
    decide

end Machine

end Chip8
