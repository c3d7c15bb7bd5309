import Chip8.Bitmap
import Chip8.Terminal.Box
import Chip8.Terminal.Surface
import Chip8.Text.Lines
import Chip8.Text.Symbol

/-!
# The player's screen

Two boxes: the game with its picture above, in white, and below it the map of the keys with a status
line, in yellow. The game box is as large as the picture needs where the terminal has room for it,
and stands in the middle of a wider one.

Results:
* `getElem?_row_scene_eq_picture`: on a terminal that is high enough a tile of the game box shows
  its pixel.
-/

namespace Chip8.Terminal

/-! ## Layout -/

/-- The width of the game box: the picture and its border. -/
def gameWidth : Nat := Bitmap.width + 2

/-- The height of the game box: the picture and its border. -/
def gameHeight : Nat := Bitmap.height + 2

/-- The height of the box below. -/
def keyHeight : Nat := 8

/-- The rows that the game box gets on a terminal of `height` rows. Where both boxes do not fit, the
lower one is served first, and where the terminal has not even twice its height, they share. -/
def gameRows (height : Nat) : Nat :=
  if gameHeight + keyHeight ≤ height then gameHeight
  else if 2 * keyHeight ≤ height then height - keyHeight
  else (height + 1) / 2

/-- The area of the game box on a terminal of the given size (the `game_area` of `draw`). -/
def gameArea (width height : Nat) : Area :=
  if gameWidth < width then
    { left := (width - gameWidth + 1) / 2, top := 0, width := gameWidth, height := gameRows height }
  else { left := 0, top := 0, width := width, height := gameRows height }

/-- The area of the box with the keys: the full width below the game. -/
def keyArea (width height : Nat) : Area :=
  { left := 0, top := gameRows height, width := width
    height := min keyHeight (height - gameRows height) }

/-- The two boxes of the screen, the `game_paragraph` and the `key_paragraph` of `draw`. -/
structure Scene where
  game : Box
  keys : Box

/-- A row of the screen on a terminal of the given size, up to the right edge of the box in it. -/
def Scene.row (s : Scene) (width height row : Nat) : List Tile :=
  let game := gameArea width height
  let keys := keyArea width height
  if game.hasRow row then
    List.replicate game.left Tile.blank ++ s.game.row game.width game.height (row - game.top)
  else if keys.hasRow row then s.keys.row keys.width keys.height (row - keys.top)
  else []

/-! ## Contents -/

/-- What the player's screen is made of: `TerminalDisplay`. -/
structure View where
  surface : Surface
  title : String
  /-- The picture shown last, if there has been any. -/
  picture : Option Bitmap
  status : String

namespace View

open Text (Symbol)

/-- The screen before anything is drawn (`TerminalDisplay::new`). -/
def new (width height : Nat) (title : String) : View :=
  { surface := Surface.new width height, title := title, picture := none, status := "" }

/-- The rows of a picture as lines of symbols: a full block for a lit pixel, a blank for another
(`render_rows`). -/
def pictureLines (g : Bitmap) : List (List Symbol) :=
  (List.range Bitmap.height).map fun y => (g.rowText y).map Symbol.plain

/-- The box with the picture. The lines of the title follow one another without a gap. -/
def gameBox (v : View) : Box :=
  { title := Text.lines v.title.toList
    lines := match v.picture with
      | none => []
      | some g => pictureLines g
    centred := false
    colour := .white }

/-- The map from the keyboard to the keypad: the `key_mapping` of `draw`. -/
def keyLines : List String := [
  "Key Mapping:",
  "1 2 3 4    →    1 2 3 C",
  "Q W E R    →    4 5 6 D",
  "A S D F    →    7 8 9 E",
  "Z X C V    →    A 0 B F"]

/-- The box with the keys and the status. -/
def keyBox (v : View) : Box :=
  { title := ["Keypad (P pause, B reboot, Esc quits)".toList]
    lines := (keyLines.map String.toList ++ Text.lines v.status.toList).map Text.symbols
    centred := true
    colour := .yellow }

/-- Both boxes as they are now. -/
def scene (v : View) : Scene := { game := v.gameBox, keys := v.keyBox }

/-- Draws the screen as it is now (`TerminalDisplay::draw`). -/
def redraw (v : View) : View := { v with surface := v.surface.draw v.scene.row }

/-- Shows a picture (`present`). -/
def present (v : View) (g : Bitmap) : View := { v with picture := some g }.redraw

/-- Replaces the line below the keys and draws the last picture again (`set_status`). -/
def setStatus (v : View) (status : String) : View := { v with status := status }.redraw

/-- Empties the terminal (`TerminalDisplay::clear`). -/
def clear (v : View) : View := { v with surface := v.surface.clear }

/-- The terminal changes its size; what is drawn next fits the new one. -/
def resize (v : View) (width height : Nat) : View :=
  { v with surface := v.surface.resize width height }

/-! ## Pixels and cells -/

theorem getElem?_pictureLines (g : Bitmap) {y : Nat} (h : y < 32) :
    (pictureLines g)[y]? = some ((g.rowText y).map Symbol.plain) := by
  simp [pictureLines, Bitmap.height, h]

theorem getElem?_rowText (g : Bitmap) (y : Nat) {x : Nat} (h : x < 64) :
    (g.rowText y)[x]? = some (if g.pixel x y then '█' else ' ') := by
  simp [Bitmap.rowText, h]

theorem gameRows_of_le {height : Nat} (h : 42 ≤ height) : gameRows height = 34 := by
  simp [gameRows, gameHeight, keyHeight, Bitmap.height, h]

/-- Where the terminal has at least 42 rows, the tile of pixel (`x`, `y`) is one row below the upper
edge of the game box and one column right of its left edge, and holds a full block if the pixel is
lit. -/
theorem getElem?_row_scene_eq_picture (v : View) {g : Bitmap} (hg : v.picture = some g)
    {width height x y : Nat} (hh : 42 ≤ height) (hx : x < 64) (hw : x + 2 < width) (hy : y < 32) :
    (v.scene.row width height (1 + y))[(gameArea width height).left + 1 + x]? =
      some (Tile.ofChar .white (if g.pixel x y then '█' else ' ')) := by
  have harea : (gameArea width height).top = 0 ∧ (gameArea width height).height = 34 ∧
      x + 2 < (gameArea width height).width := by
    unfold gameArea
    split <;> simp [gameRows_of_le hh, gameWidth, Bitmap.width] <;> omega
  obtain ⟨htop, hheight, hwidth⟩ := harea
  have hin : (gameArea width height).hasRow (1 + y) := by
    simp only [Area.hasRow, htop, hheight, Bool.and_eq_true, decide_eq_true_eq]
    omega
  have hline : v.gameBox.lines[y]?.getD [] = (g.rowText y).map Symbol.plain := by
    simp [gameBox, hg, getElem?_pictureLines g hy]
  have hroom : x < (gameArea width height).width - 2 := by omega
  have hshown := Box.getElem?_lineTiles_plain (show v.gameBox.centred = false from rfl)
    (g.rowText y) hroom
  simp only [Scene.row, if_pos hin, htop, scene, Nat.sub_zero]
  rw [List.getElem?_append_right (by rw [List.length_replicate]; omega), List.length_replicate,
    show (gameArea width height).left + 1 + x - (gameArea width height).left = x + 1 by omega,
    show 1 + y = y + 1 by omega, Box.getElem?_row_inner _ hwidth (by omega), hline, hshown,
    getElem?_rowText g y hx]
  rfl

end View

end Chip8.Terminal
