import Chip8.Terminal.Grid
import Chip8.Text.Symbol

/-!
# Boxes

A box is a border with a title in its upper edge and lines of symbols inside. Whatever does not fit
is cut off.

Results:
* `getElem?_row_inner`: inside the border a box shows its lines.
* `tilesOf_plain`: characters of one column stand in columns next to each other.
-/

namespace Chip8.Terminal

open Text (Symbol)

/-- A rectangle on the terminal. -/
structure Area where
  left : Nat
  top : Nat
  width : Nat
  height : Nat
deriving DecidableEq

namespace Area

def hasRow (a : Area) (row : Nat) : Bool := a.top ≤ row && row < a.top + a.height

end Area

/-! ## Rows of tiles -/

/-- As many symbols from the left as there is room for. -/
def fitting : (room : Nat) → List Symbol → List Symbol
  | _, [] => []
  | room, s :: rest => if s.width ≤ room then s :: fitting (room - s.width) rest else []

/-- The tiles of symbols next to each other. The further columns that a symbol covers are left to
`covered`. -/
def tilesOf (colour : Colour) (covered : Tile) : List Symbol → List Tile
  | [] => []
  | s :: rest =>
    { chars := s.chars, width := s.width, colour := colour } ::
      (List.replicate (s.width - 1) covered ++ tilesOf colour covered rest)

/-- Tiles cut or filled up to `width` columns. -/
def fill (width : Nat) (pad : Tile) (tiles : List Tile) : List Tile :=
  tiles.take width ++ List.replicate (width - tiles.length) pad

/-- Writes characters into a tile, which keeps its colour. -/
def Tile.write (chars : List Char) (t : Tile) : Tile :=
  { t with chars := chars, width := Text.width chars }

/-- Writes characters behind those that are in a tile. -/
def Tile.extend (chars : List Char) (t : Tile) : Tile := t.write (t.chars ++ chars)

/-- Empties the columns that a symbol covers besides its own. -/
def clearCovered (column : Nat) : (width : Nat) → List Tile → List Tile
  | 0, row | 1, row => row
  | width + 2, row => clearCovered column (width + 1) (row.set (column + width + 1) Tile.blank)

/-- A row with a symbol written into a column. The text that it belongs to begins at `start`; if it
takes no column, or if none before it does, it goes with what is there. -/
def place (start column : Nat) (s : Symbol) (row : List Tile) : List Tile :=
  let written :=
    if column = start then row.modify column (Tile.extend s.chars)
    else if s.width = 0 then row.modify (column - 1) (Tile.extend s.chars)
    else row.modify column (Tile.write s.chars)
  clearCovered column s.width written

/-- A row with symbols written into it from a column on, as far as they end at `limit` or before. -/
def placeAll (start limit : Nat) : (column : Nat) → List Symbol → List Tile → List Tile
  | _, [], row => row
  | column, s :: rest, row =>
    if column + s.width ≤ limit then
      placeAll start limit (column + s.width) rest (place start column s row)
    else row

/-- A row with a text written over what is there from `start` on, cut off at `limit`. -/
def writeOver (start limit : Nat) (text : List Symbol) (row : List Tile) : List Tile :=
  match text with
  | [] => row
  | first :: _ =>
    if start < limit ∧ start + first.width ≤ limit then
      placeAll start limit start text (row.modify start (Tile.write []))
    else row

structure Box where
  /-- The pieces of the title, which follow one another. -/
  title : List (List Char)
  lines : List (List Symbol)
  /-- Whether the lines stand in the middle or at the left edge. -/
  centred : Bool
  colour : Colour

namespace Box

/-- A character in the colour of the box. -/
def tile (b : Box) (c : Char) : Tile := Tile.ofChar b.colour c

/-- What a line shows in a space of `room` columns. A centred line starts half its width, rounded
down, before the middle, rounded down. -/
def lineTiles (b : Box) (room : Nat) (line : List Symbol) : List Tile :=
  let shown := fitting room (line.filter fun s => 0 < s.width ∧ s.width ≤ room)
  let tiles := tilesOf b.colour (b.tile ' ') shown
  let start := if b.centred then room / 2 - tiles.length / 2 else 0
  fill room (b.tile ' ') (List.replicate start (b.tile ' ') ++ tiles)

/-- The columns of a title, whose pieces are measured one by one. -/
def titleWidth (pieces : List (List Char)) : Nat :=
  pieces.foldr (fun piece sum => Text.width piece + sum) 0

/-- Writes the pieces of a title into the upper edge, each behind the columns of the one before. A
piece may need more columns than it is measured to have, which the next one then takes back. -/
def writeTitle (limit : Nat) : (start : Nat) → List (List Char) → List Tile → List Tile
  | _, [], row => row
  | start, piece :: rest, row =>
    let width := Text.width piece
    writeTitle limit (start + width) rest
      (if width = 0 then row else writeOver start limit (Text.symbols piece) row)

/-- The upper edge with the title on it. -/
def titleTiles (b : Box) (room : Nat) : List Tile :=
  writeTitle (min room (titleWidth b.title)) 0 b.title (List.replicate room (b.tile '─'))

/-- A row of a box with its ends. Where there is only one column the left end is what shows. -/
def framed (left right : Tile) (middle : Nat → List Tile) : (width : Nat) → List Tile
  | 0 => []
  | 1 => [left]
  | width + 2 => left :: (fill width Tile.blank (middle width) ++ [right])

/-- A row, counted from the upper edge, of the box that is `width` columns wide and `height` rows
high. On one row only the upper edge is there. -/
def row (b : Box) (width height row : Nat) : List Tile :=
  if row = 0 then
    framed (b.tile '┌') (b.tile '┐') b.titleTiles width
  else if row + 1 = height then
    framed (b.tile '└') (b.tile '┘') (fun room => fill room (b.tile '─') []) width
  else
    framed (b.tile '│') (b.tile '│')
      (fun room => b.lineTiles room (b.lines[row - 1]?.getD [])) width

end Box

/-! ## Lengths and columns -/

@[simp] theorem length_fill (width : Nat) (pad : Tile) (tiles : List Tile) :
    (fill width pad tiles).length = width := by
  simp only [fill, List.length_append, List.length_take, List.length_replicate]
  omega

theorem getElem?_fill {width column : Nat} (h : column < width) (pad : Tile) (tiles : List Tile) :
    (fill width pad tiles)[column]? = some (tiles[column]?.getD pad) := by
  by_cases hc : column < tiles.length
  · have ht : column < (tiles.take width).length := by
      rw [List.length_take]
      omega
    rw [fill, List.getElem?_append_left ht, List.getElem?_take_of_lt h]
    simp [hc]
  · have ht : (tiles.take width).length ≤ column := by
      rw [List.length_take]
      omega
    rw [fill, List.getElem?_append_right ht, List.getElem?_replicate, List.length_take,
      if_pos (by omega), List.getElem?_eq_none (by omega)]
    rfl

theorem fitting_plain (room : Nat) (cs : List Char) :
    fitting room (cs.map Symbol.plain) = (cs.take room).map Symbol.plain := by
  induction cs generalizing room with
  | nil => simp [fitting]
  | cons c rest ih =>
    cases room with
    | zero => simp [fitting, Symbol.plain]
    | succ room => simp [fitting, Symbol.plain, ih]

theorem tilesOf_plain (colour : Colour) (covered : Tile) (cs : List Char) :
    tilesOf colour covered (cs.map Symbol.plain) = cs.map (Tile.ofChar colour) := by
  induction cs with
  | nil => rfl
  | cons c rest ih => simp [tilesOf, Symbol.plain, ih, Tile.ofChar]

namespace Box

theorem getElem?_framed (left right : Tile) (middle : Nat → List Tile) {width column : Nat}
    (h : column + 2 < width) :
    (framed left right middle width)[column + 1]? =
      some ((middle (width - 2))[column]?.getD Tile.blank) := by
  obtain ⟨width, rfl⟩ := Nat.exists_eq_add_of_le' (show 2 ≤ width by omega)
  have hfill : column < (fill width Tile.blank (middle width)).length := by
    rw [length_fill]
    omega
  rw [framed, List.getElem?_cons_succ, List.getElem?_append_left hfill,
    getElem?_fill (by omega)]
  rfl

theorem getElem?_row_inner (b : Box) {width height column row : Nat} (hc : column + 2 < width)
    (hr : row + 2 < height) :
    (b.row width height (row + 1))[column + 1]? =
      some ((b.lineTiles (width - 2) (b.lines[row]?.getD []))[column]?.getD Tile.blank) := by
  unfold Box.row
  rw [if_neg (by omega), if_neg (by omega), getElem?_framed _ _ _ hc]
  rfl

/-- A line of plain characters at the left edge shows them in order. -/
theorem getElem?_lineTiles_plain {b : Box} (hb : b.centred = false) (cs : List Char)
    {room column : Nat} (h : column < room) :
    (b.lineTiles room (cs.map Symbol.plain))[column]? = some (b.tile (cs[column]?.getD ' ')) := by
  have hall : (cs.map Symbol.plain).filter (fun s => 0 < s.width ∧ s.width ≤ room) =
      cs.map Symbol.plain := by
    refine List.filter_eq_self.2 fun s hs => ?_
    obtain ⟨c, hc, rfl⟩ := List.mem_map.1 hs
    have hroom : (Symbol.plain c).width ≤ room := show 1 ≤ room by omega
    have hpos : 0 < (Symbol.plain c).width := show 0 < 1 by omega
    simp [hroom, hpos]
  simp only [lineTiles, hall, hb, fitting_plain, tilesOf_plain]
  rw [getElem?_fill h]
  by_cases hc : column < cs.length <;> simp [hc, h, tile]

end Box

end Chip8.Terminal
