import Chip8.Machine.Cycle
import Chip8.Proofs.Patterns

/-!
# Drawing sprites

A drawing flips the pixels under the lit bits of its sprite. Its corner wraps onto the grid, and what
then lies past the right or the lower edge is on no pixel. Each row of the sprite falls on a row of
the grid of its own, so no pixel is flipped twice, and the flag of the whole drawing tells whether
it has left a lit pixel dark.

Results:
* `pixel_draw`: which pixels a drawing flips.
* `hit_draw_iff`, `hit_draw_iff_loses`: when its flag is set.
* `draw_congr`: a drawing hangs on nothing but the pixels that its sprite covers.
* `spriteBit_sprite`: the bits of a sprite, by the bytes of memory.
* `drawing_meets_specification`: what a word DXYN does.
-/

namespace Chip8

namespace Bitmap

/-! ## One row -/

/-- A row is dark all along or has a lit pixel. -/
theorem row_ne_dark_iff (row : BitVec 64) : row ≠ 0#64 ↔ ∃ x, row.getMsbD x = true := by
  constructor
  · intro hne
    by_contra hnone
    apply hne
    apply BitVec.eq_of_getMsbD_eq
    intro x _
    rw [BitVec.getMsbD_zero]
    exact Bool.eq_false_iff.2 fun hx => hnone ⟨x, hx⟩
  · rintro ⟨x, hx⟩ rfl
    rw [BitVec.getMsbD_zero] at hx
    cases hx

theorem lt_of_pixel {g : Bitmap} {x y : Nat} (h : g.pixel x y = true) : x < 64 ∧ y < 32 := by
  constructor
  · by_contra hx
    rw [pixel_of_width_le g y (Nat.not_lt.1 hx)] at h
    cases h
  · by_contra hy
    rw [pixel_of_height_le g x (Nat.not_lt.1 hy)] at h
    cases h

/-- A sprite row turns off a lit pixel where one of its lit bits falls on one. -/
theorem hit_drawRow_iff (g : Bitmap) (x y : Nat) (byte : UInt8) :
    (g.drawRow x y byte).2 = true ↔
      ∃ cx, g.pixel cx y = true ∧ (rowMask byte x).getMsbD cx = true := by
  unfold drawRow
  split
  · next hy =>
    have hpixel (cx : Nat) : g.pixel cx y = g.rows[y].getMsbD cx := by simp [pixel, hy]
    simp only [bne_iff_ne, row_ne_dark_iff, BitVec.getMsbD_and, Bool.and_eq_true, hpixel]
  · next hy =>
    constructor
    · intro h
      cases h
    · rintro ⟨cx, hpixel, -⟩
      exact absurd (lt_of_pixel hpixel).2 hy

/-! ## All rows -/

theorem spriteBit_cons_succ (byte : UInt8) (rest : List UInt8) (dx dy : Nat) :
    spriteBit (byte :: rest) dx (dy + 1) = spriteBit rest dx dy := rfl

/-- The rows below leave the pixels of the first row as it has left them, and the other way round. -/
theorem hit_drawRows_iff (g : Bitmap) (x y : Nat) (sprite : List UInt8) :
    (g.drawRows x y sprite).2 = true ↔
      ∃ cx cy, g.pixel cx cy = true ∧ x ≤ cx ∧ y ≤ cy ∧
        spriteBit sprite (cx - x) (cy - y) = true := by
  induction sprite generalizing g y with
  | nil => simp [drawRows, spriteBit]
  | cons byte rest ih =>
    simp only [drawRows, Bool.or_eq_true, hit_drawRow_iff, ih]
    constructor
    · rintro (⟨cx, hpixel, hmask⟩ | ⟨cx, cy, hpixel, hx, hy, hbit⟩)
      · simp only [getMsbD_rowMask, Bool.and_eq_true, decide_eq_true_eq] at hmask
        refine ⟨cx, y, hpixel, hmask.1.2, Nat.le_refl y, ?_⟩
        rw [Nat.sub_self]
        exact hmask.2
      · -- the first row has left the pixels of this one alone
        have hother : cy ≠ y := by omega
        rw [pixel_drawRow] at hpixel
        simp only [hother, decide_false, Bool.false_and, Bool.xor_false] at hpixel
        refine ⟨cx, cy, hpixel, hx, by omega, ?_⟩
        rwa [show cy - y = cy - (y + 1) + 1 by omega, spriteBit_cons_succ]
    · rintro ⟨cx, cy, hpixel, hx, hy, hbit⟩
      rcases Nat.eq_or_lt_of_le hy with rfl | hlt
      · left
        refine ⟨cx, hpixel, ?_⟩
        rw [Nat.sub_self] at hbit
        simp only [getMsbD_rowMask, Bool.and_eq_true, decide_eq_true_eq]
        exact ⟨⟨(lt_of_pixel hpixel).1, hx⟩, hbit⟩
      · right
        have hother : cy ≠ y := by omega
        refine ⟨cx, cy, ?_, hx, hlt, ?_⟩
        · rw [pixel_drawRow]
          simpa only [hother, decide_false, Bool.false_and, Bool.xor_false] using hpixel
        · rwa [show cy - y = cy - (y + 1) + 1 by omega, spriteBit_cons_succ] at hbit

/-! ## The whole drawing -/

/-- Whether a sprite whose corner is at (`x`, `y`) has a lit bit on the pixel in column `cx` of row
`cy`. -/
def covers (sprite : List UInt8) (x y cx cy : Nat) : Bool :=
  decide (cx < 64) && decide (cy < 32) && decide (x % 64 ≤ cx) && decide (y % 32 ≤ cy) &&
    spriteBit sprite (cx - x % 64) (cy - y % 32)

theorem covers_eq_true_iff {sprite : List UInt8} {x y cx cy : Nat} :
    covers sprite x y cx cy = true ↔
      cx < 64 ∧ cy < 32 ∧ x % 64 ≤ cx ∧ y % 32 ≤ cy ∧
        spriteBit sprite (cx - x % 64) (cy - y % 32) = true := by
  simp only [covers, Bool.and_eq_true, decide_eq_true_eq, and_assoc]

/-- A drawing flips the pixels that its sprite covers. -/
theorem pixel_draw (g : Bitmap) (x y : Nat) (sprite : List UInt8) (cx cy : Nat) :
    (g.draw x y sprite).1.pixel cx cy = (g.pixel cx cy ^^ covers sprite x y cx cy) :=
  pixel_drawRows g (x % 64) (y % 32) sprite cx cy

/-- The flag is set if the sprite covers a lit pixel. -/
theorem hit_draw_iff (g : Bitmap) (x y : Nat) (sprite : List UInt8) :
    (g.draw x y sprite).2 = true ↔
      ∃ cx cy, g.pixel cx cy = true ∧ covers sprite x y cx cy = true := by
  rw [draw, hit_drawRows_iff]
  refine exists_congr fun cx => exists_congr fun cy => and_congr_right fun hpixel => ?_
  obtain ⟨hcx, hcy⟩ := lt_of_pixel hpixel
  simp only [covers_eq_true_iff, hcx, hcy, true_and]

/-- A pixel that is lit in the first grid is dark in the second. -/
def Loses (g g' : Bitmap) : Prop :=
  ∃ cx < 64, ∃ cy < 32, g.pixel cx cy = true ∧ g'.pixel cx cy = false

/-- The flag is set if a lit pixel has gone dark. -/
theorem hit_draw_iff_loses (g : Bitmap) (x y : Nat) (sprite : List UInt8) :
    (g.draw x y sprite).2 = true ↔ g.Loses (g.draw x y sprite).1 := by
  rw [hit_draw_iff]
  constructor
  · rintro ⟨cx, cy, hpixel, hcovers⟩
    obtain ⟨hcx, hcy⟩ := lt_of_pixel hpixel
    refine ⟨cx, hcx, cy, hcy, hpixel, ?_⟩
    rw [pixel_draw, hpixel, hcovers]
    rfl
  · rintro ⟨cx, -, cy, -, hpixel, hdark⟩
    rw [pixel_draw, hpixel] at hdark
    refine ⟨cx, cy, hpixel, ?_⟩
    simpa using hdark

/-- Sprites that cover the same pixels draw the same and set the same flag. -/
theorem draw_congr {sprite sprite' : List UInt8} {x y x' y' : Nat}
    (h : ∀ cx cy, covers sprite x y cx cy = covers sprite' x' y' cx cy) (g : Bitmap) :
    g.draw x y sprite = g.draw x' y' sprite' := by
  apply Prod.ext
  · apply ext_pixel
    intro cx cy
    rw [pixel_draw, pixel_draw, h]
  · rw [Bool.eq_iff_iff, hit_draw_iff, hit_draw_iff]
    simp only [h]

end Bitmap

/-! ## The word DXYN -/

namespace Machine

open Instruction (fieldX fieldY fieldN)

/-- Whether a sprite of `count` rows from the index register on has a lit bit in column `dx` of row
`dy`. A row is a byte of memory, the bit of its highest value leftmost, and there are only as many
rows as there are bytes up to the end of memory. -/
def spriteLit (m : Machine) (count dx dy : Nat) : Bool :=
  decide (dy < min count (4096 - m.index.toNat)) && decide (dx < 8) &&
    (m.memory.byteAt (m.index.toNat + dy)).toNat.testBit (7 - dx)

theorem spriteBit_sprite (m : Machine) (count dx dy : Nat) :
    Bitmap.spriteBit (m.memory.sprite m.index.toUInt64 count) dx dy = m.spriteLit count dx dy := by
  rw [Bitmap.spriteBit, Memory.getElem?_sprite, UInt16.toNat_toUInt64, spriteLit]
  split
  · next hrow =>
    rw [BitVec.getMsbD_eq_getLsbD, decide_eq_true hrow, Bool.true_and, Option.getD_some]
    rfl
  · next hrow =>
    rw [decide_eq_false hrow, Bool.false_and, Bool.false_and, Option.getD_none]
    exact BitVec.getMsbD_zero

theorem bitmap_draw (m : Machine) (x y : Register) (count : Nat) :
    (m.draw x y count).screen.bitmap =
      (m.screen.bitmap.draw (m.readRegister x).toNat (m.readRegister y).toNat
        (m.memory.sprite m.index.toUInt64 count)).1 := rfl

/-- The flag register holds what has come of the drawing. -/
theorem flag_draw (m : Machine) (x y : Register) (count : Nat) :
    (m.draw x y count).readRegister Register.flag =
      (m.screen.bitmap.draw (m.readRegister x).toNat (m.readRegister y).toNat
        (m.memory.sprite m.index.toUInt64 count)).2.toUInt8 :=
  (Registers.read_write _ _ _ _).trans (if_pos rfl)

/-- Executing a word DXYN, whatever the machine holds: with the corner at VX modulo 64 and VY modulo
32, each pixel is flipped that lies under a lit bit of the sprite at the index register, and no
other one. VF tells whether a lit pixel has gone dark. The picture is to be shown, and the machine
is the same in everything else. A cycle with such a word also moves the program counter past it and
lets the timers count. -/
theorem drawing_meets_specification (m : Machine) (word : UInt16) (hword : fits "DXYN" word) :
    let after := m.execute (.ofWord word)
    let left := (m.readRegister (fieldX word)).toNat % 64
    let top := (m.readRegister (fieldY word)).toNat % 32
    (∀ cx < 64, ∀ cy < 32, after.screen.bitmap.pixel cx cy =
      (m.screen.bitmap.pixel cx cy ^^ (decide (left ≤ cx) && decide (top ≤ cy) &&
        m.spriteLit (fieldN word).val (cx - left) (cy - top)))) ∧
    (m.screen.bitmap.Loses after.screen.bitmap → after.readRegister Register.flag = 1) ∧
    (¬ m.screen.bitmap.Loses after.screen.bitmap → after.readRegister Register.flag = 0) ∧
    after.isDue = true ∧
    (∀ r ≠ Register.flag, after.readRegister r = m.readRegister r) ∧
    after = { m with screen := after.screen, registers := after.registers } ∧
    (m.nextWord = word →
      m.cycle =
        { after with pc := m.pc + 2, timers := m.timers.onCycle m.setup.cyclesPerTick }) := by
  intro after left top
  have hi : Instruction.ofWord word = .draw (fieldX word) (fieldY word) (fieldN word) :=
    Instruction.ofWord_of_fits_draw hword
  have hafter : after = m.draw (fieldX word) (fieldY word) (fieldN word).val :=
    congrArg m.execute hi
  have hhit := Bitmap.hit_draw_iff_loses m.screen.bitmap (m.readRegister (fieldX word)).toNat
    (m.readRegister (fieldY word)).toNat (m.memory.sprite m.index.toUInt64 (fieldN word).val)
  rw [hafter]
  refine ⟨?_, ?_, ?_, rfl, ?_, rfl, ?_⟩
  · intro cx hcx cy hcy
    rw [bitmap_draw, Bitmap.pixel_draw, Bitmap.covers, spriteBit_sprite, decide_eq_true hcx,
      decide_eq_true hcy, Bool.true_and, Bool.true_and]
  · intro hloses
    rw [flag_draw, hhit.2 hloses]
    rfl
  · intro hkeeps
    rw [flag_draw, Bool.eq_false_iff.2 fun h => hkeeps (hhit.1 h)]
    rfl
  · intro r hr
    exact (Registers.read_write _ _ _ _).trans (if_neg hr)
  · intro hnext
    rw [cycle, nextInstruction, hnext, hi]
    rfl

/-- VF gives both coordinates of the corner, next to the lower right one of the grid. Of the three
rows asked for memory has two, one of which turns off the only lit pixel. -/
theorem drawing_meets_specification_corner :
    let m : Machine := { powerOn Setup.standard with
      memory := Memory.overlay { bytes := Vector.replicate 4096 0 } 0xFFE [0xC0, 0xFF]
      registers := Registers.initial.write Register.flag 0xFE
      index := 0xFFE
      screen := { bitmap := (Bitmap.dark.draw 62 30 [0x80]).1, due := false } }
    let after := m.execute (.ofWord 0xDFF3)
    fits "DXYN" 0xDFF3 = true ∧
    after.screen.bitmap.pixel 62 30 = false ∧ after.screen.bitmap.pixel 63 31 = true ∧
    after.screen.bitmap.pixel 0 31 = false ∧
    after.readRegister Register.flag = 1 ∧ after.isDue = true := by
  intro m after
  obtain ⟨hpixels, hflag, -, hdue, -⟩ := drawing_meets_specification m 0xDFF3 (by decide)
  have hcorner : after.screen.bitmap.pixel 62 30 = false :=
    (hpixels 62 (by decide) 30 (by decide)).trans (by decide +kernel)
  refine ⟨by decide, hcorner, ?_, ?_, ?_, hdue⟩
  · exact (hpixels 63 (by decide) 31 (by decide)).trans (by decide +kernel)
  · exact (hpixels 0 (by decide) 31 (by decide)).trans (by decide +kernel)
  · have hlit : m.screen.bitmap.pixel 62 30 = true := by decide +kernel
    exact hflag ⟨62, by decide, 30, by decide, hlit, hcorner⟩

end Machine

end Chip8
