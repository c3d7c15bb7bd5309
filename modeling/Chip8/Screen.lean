import Chip8.Bitmap

/-!
# The screen

The picture together with a mark that it has not been shown since it was last touched. Clearing and
drawing set the mark, whether or not a pixel changes; only the acknowledgement removes it.
-/

namespace Chip8

/-- Model of `Framebuffer`. -/
structure Screen where
  bitmap : Bitmap
  /-- The picture is still to be shown. -/
  due : Bool
deriving DecidableEq

namespace Screen

/-- A dark picture, due at once so that the first showing blanks the display
(`Framebuffer::new`). -/
def initial : Screen := { bitmap := Bitmap.dark, due := true }

/-- Model of `Framebuffer::clear`. -/
def clear (_ : Screen) : Screen := { bitmap := Bitmap.dark, due := true }

/-- Draws a sprite (`Framebuffer::draw_sprite`); the flag tells whether a lit pixel was turned
off. -/
def draw (s : Screen) (x y : Nat) (sprite : List UInt8) : Screen × Bool :=
  let drawn := s.bitmap.draw x y sprite
  ({ bitmap := drawn.1, due := true }, drawn.2)

/-- The picture has been shown (`Framebuffer::acknowledge`). -/
def acknowledge (s : Screen) : Screen := { s with due := false }

end Screen

end Chip8
