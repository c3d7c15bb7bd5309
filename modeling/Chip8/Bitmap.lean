/-!
# The picture

64 columns by 32 rows of pixels that are lit or dark. Each row is one 64-bit word whose most
significant bit is the leftmost pixel, so that a sprite row is one shifted byte and drawing it is
one exclusive or.

Results:
* `getMsbD_rowMask`: which columns a sprite byte covers.
* `pixel_drawRow`, `pixel_drawRows`: drawing flips the pixels under the lit bits of the sprite.
* `pixel_dark`: on the dark grid every pixel is dark.
-/

namespace Chip8

/-- The grid of pixels, one word a row: the `Pixels` of a `Framebuffer`. -/
structure Bitmap where
  rows : Vector (BitVec 64) 32
deriving DecidableEq

namespace Bitmap

def width : Nat := 64

def height : Nat := 32

/-- The grid with every pixel dark. -/
def dark : Bitmap := { rows := Vector.replicate 32 0#64 }

/-- Whether the pixel in column `x` of row `y` is lit (`Framebuffer::pixel`). Outside the grid
nothing is. -/
def pixel (g : Bitmap) (x y : Nat) : Bool := (g.rows[y]?.getD 0#64).getMsbD x

/-- The number of lit pixels of one row. -/
def litInRow (row : BitVec 64) : Nat := (List.range 64).countP row.getMsbD

/-- The number of lit pixels (`Framebuffer::lit_count`). -/
def litCount (g : Bitmap) : Nat := g.rows.toList.foldr (fun row n => litInRow row + n) 0

/-- The row that has the bits of `byte` from column `x` on; bits past column 63 are lost. -/
def rowMask (byte : UInt8) (x : Nat) : BitVec 64 := (byte.toBitVec ++ 0#56) >>> x

/-- Draws one sprite row from column `x` of row `y` on. The flag tells whether a lit pixel was
turned off. A row below the grid is not drawn. -/
def drawRow (g : Bitmap) (x y : Nat) (byte : UInt8) : Bitmap × Bool :=
  if h : y < 32 then
    ({ rows := g.rows.set y (g.rows[y] ^^^ rowMask byte x) },
      g.rows[y] &&& rowMask byte x != 0#64)
  else (g, false)

/-- Draws the rows of a sprite below one another; the flag tells whether any lit pixel was turned
off. -/
def drawRows (g : Bitmap) (x y : Nat) : List UInt8 → Bitmap × Bool
  | [] => (g, false)
  | byte :: rest =>
    let first := g.drawRow x y byte
    let others := first.1.drawRows x (y + 1) rest
    (others.1, first.2 || others.2)

/-- Draws a sprite with its upper left corner at (`x`, `y`), as `Framebuffer::draw_sprite` does. The
corner wraps onto the grid; what then lies past the right or the lower edge is cut off. -/
def draw (g : Bitmap) (x y : Nat) (sprite : List UInt8) : Bitmap × Bool :=
  g.drawRows (x % 64) (y % 32) sprite

/-! ## Text -/

/-- The characters of one row: a full block for a lit pixel and a blank for a dark one. -/
def rowText (g : Bitmap) (y : Nat) : List Char :=
  (List.range 64).map fun x => if g.pixel x y then '█' else ' '

/-- All rows, each closed by a line feed, as a `Framebuffer` is formatted. -/
def text (g : Bitmap) : String :=
  String.ofList ((List.range 32).flatMap fun y => g.rowText y ++ ['\n'])

/-! ## The view of pixels -/

theorem pixel_of_width_le (g : Bitmap) {x : Nat} (y : Nat) (h : 64 ≤ x) : g.pixel x y = false := by
  simp [pixel, BitVec.getMsbD_eq_getLsbD, Nat.not_lt.2 h]

theorem pixel_of_height_le (g : Bitmap) (x : Nat) {y : Nat} (h : 32 ≤ y) : g.pixel x y = false := by
  simp [pixel, h]

@[simp] theorem pixel_dark (x y : Nat) : dark.pixel x y = false := by
  by_cases h : y < 32
  · simp [pixel, dark, h]
  · exact pixel_of_height_le _ _ (by omega)

/-- Grids with the same pixels are equal. -/
theorem ext_pixel {g g' : Bitmap} (h : ∀ x y, g.pixel x y = g'.pixel x y) : g = g' := by
  obtain ⟨rows⟩ := g
  obtain ⟨rows'⟩ := g'
  congr 1
  ext y hy x hx
  have := h (63 - x) y
  simp only [pixel, hy, Vector.getElem?_eq_getElem, Option.getD_some, BitVec.getMsbD_eq_getLsbD]
    at this
  rw [show 64 - 1 - (63 - x) = x by omega] at this
  rw [← BitVec.getLsbD_eq_getElem hx, ← BitVec.getLsbD_eq_getElem hx]
  simpa [show 63 - x < 64 by omega] using this

/-- Column `c` of a sprite row that starts in column `x` shows bit `c - x` of the byte, counted
from the most significant one. -/
theorem getMsbD_rowMask (byte : UInt8) (x c : Nat) :
    (rowMask byte x).getMsbD c =
      (decide (c < 64) && decide (x ≤ c) && byte.toBitVec.getMsbD (c - x)) := by
  simp only [rowMask, BitVec.getMsbD_ushiftRight, BitVec.getMsbD_append]
  by_cases hx : c < x
  · have hle : ¬ x ≤ c := by omega
    simp [hx, hle]
  · have hle : x ≤ c := by omega
    by_cases h8 : c - x < 8 <;> simp [hx, hle, h8, Nat.not_le.2, BitVec.getMsbD_eq_getLsbD]

/-- Drawing one row flips the pixels under its lit bits and no others. -/
theorem pixel_drawRow (g : Bitmap) (x y : Nat) (byte : UInt8) (cx cy : Nat) :
    (g.drawRow x y byte).1.pixel cx cy =
      (g.pixel cx cy ^^ (decide (cy = y) && decide (cy < 32) && (rowMask byte x).getMsbD cx)) := by
  unfold drawRow
  split
  · next h =>
    simp only [pixel, Vector.getElem?_set]
    by_cases hy : cy = y
    · subst hy
      simp [h]
    · simp [hy, Ne.symm hy]
  · next h =>
    by_cases hy : cy = y
    · subst hy
      simp [h]
    · simp [hy]

/-- The bit of a sprite at column `dx` of row `dy`: dark outside its rows and eight columns. -/
def spriteBit (sprite : List UInt8) (dx dy : Nat) : Bool :=
  (sprite[dy]?.getD 0).toBitVec.getMsbD dx

/-- Drawing the rows of a sprite flips the grid's pixels under the lit bits of the sprite. -/
theorem pixel_drawRows (g : Bitmap) (x y : Nat) (sprite : List UInt8) (cx cy : Nat) :
    (g.drawRows x y sprite).1.pixel cx cy =
      (g.pixel cx cy ^^ (decide (cx < 64) && decide (cy < 32) && decide (x ≤ cx) &&
        decide (y ≤ cy) && spriteBit sprite (cx - x) (cy - y))) := by
  induction sprite generalizing g y with
  | nil => simp [drawRows, spriteBit]
  | cons byte rest ih =>
    simp only [drawRows, ih, pixel_drawRow, getMsbD_rowMask, spriteBit]
    by_cases hy : cy = y
    · subst hy
      simp [show ¬ cy + 1 ≤ cy by omega, Bool.and_comm, Bool.and_left_comm]
    · by_cases hlt : y < cy
      · obtain ⟨k, hk⟩ : ∃ k, cy - y = k + 1 := ⟨cy - y - 1, by omega⟩
        have hk' : cy - (y + 1) = k := by omega
        simp [hy, hk, hk', show y ≤ cy by omega, show y + 1 ≤ cy by omega]
      · simp [hy, show ¬ y ≤ cy by omega, show ¬ y + 1 ≤ cy by omega]

end Bitmap

end Chip8
