/-!
# Cells and tiles

A terminal shows a rectangle of cells, each a character in a colour. A drawing is a rectangle of
tiles: a tile is a symbol in a colour, which may take several characters to write and cover several
columns.

Results:
* `cell_ofRows`: a grid made from rows shows the entries of these rows.
-/

namespace Chip8.Terminal

inductive Colour
  /-- Whatever the terminal uses by itself. -/
  | plain
  | white
  | yellow
deriving DecidableEq

structure Cell where
  symbol : Char
  colour : Colour
deriving DecidableEq

/-- An empty cell. -/
def Cell.blank : Cell := { symbol := ' ', colour := .plain }

instance : Inhabited Cell := ⟨Cell.blank⟩

structure Tile where
  chars : List Char
  /-- The number of columns that the symbol covers. -/
  width : Nat
  colour : Colour
deriving DecidableEq

namespace Tile

/-- A character that covers its own column. -/
def ofChar (colour : Colour) (c : Char) : Tile := { chars := [c], width := 1, colour := colour }

/-- An empty tile. -/
def blank : Tile := ofChar .plain ' '

instance : Inhabited Tile := ⟨Tile.blank⟩

/-- The tile is written as one character and covers one column. -/
def IsSingle (t : Tile) : Prop := t.chars.length = 1 ∧ t.width = 1

instance (t : Tile) : Decidable t.IsSingle := inferInstanceAs (Decidable (_ ∧ _))

/-- The cell that shows a tile of one character. -/
def cell (t : Tile) : Cell := { symbol := t.chars.headD ' ', colour := t.colour }

@[simp] theorem isSingle_ofChar (colour : Colour) (c : Char) : (ofChar colour c).IsSingle :=
  ⟨rfl, rfl⟩

@[simp] theorem isSingle_blank : blank.IsSingle := isSingle_ofChar .plain ' '

end Tile

/-- A rectangle of entries, row after row. Entries that are not there count as empty. -/
structure Grid (α : Type) where
  width : Nat
  height : Nat
  rows : Array (Array α)
deriving DecidableEq

namespace Grid

variable {α : Type}

/-- The grid of the given rows. -/
def ofRows (width height : Nat) (row : Nat → Array α) : Grid α :=
  { width := width, height := height, rows := Array.ofFn fun i : Fin height => row i.val }

/-- The grid of empty entries. -/
def blank (width height : Nat) : Grid α := ofRows width height fun _ => #[]

variable [Inhabited α]

/-- The entry in a column of a row. -/
def cell (g : Grid α) (column row : Nat) : α := ((g.rows[row]?.getD #[])[column]?).getD default

/-- The entries of a row from left to right. -/
def row (g : Grid α) (row : Nat) : List α :=
  (List.range g.width).map fun column => g.cell column row

/-- All rows from the top down. -/
def toLists (g : Grid α) : List (List α) := (List.range g.height).map g.row

theorem cell_ofRows (width height : Nat) (rows : Nat → Array α) {column row : Nat}
    (hr : row < height) :
    (ofRows width height rows).cell column row = (rows row)[column]?.getD default := by
  simp [cell, ofRows, hr]

@[simp] theorem cell_blank (width height column row : Nat) :
    (blank width height : Grid α).cell column row = default := by
  by_cases h : row < height
  · simp [blank, cell_ofRows _ _ _ h]
  · simp [blank, cell, ofRows, h]

end Grid

end Chip8.Terminal
