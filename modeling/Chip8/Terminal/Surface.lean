import Chip8.Terminal.Grid

/-!
# Drawing on a terminal

Only the tiles that differ from the last drawing are sent to the terminal, row by row from left to
right. A tile is written from its own column on, or where the pen stands if the tile before it has
been sent as well; every character then fills one cell and moves the pen on. The columns that a wide
symbol covers are not sent, and a column that one has covered before is sent in any case. After the
terminal has changed its size the next drawing starts from an empty screen.

Results:
* `cell_shown_draw`: a row that consists of single characters, before and after, and that has shown
  the last drawing shows the next one.
* `inStepAt_draw`: and so it goes on.
-/

namespace Chip8.Terminal

/-- The cells of a row while tiles are sent to it. -/
structure Sending where
  cells : Array Cell
  /-- Where the pen stands, if the tile before has been sent. -/
  pen : Option Nat := none
  /-- How many columns the symbols so far cover from here on. -/
  covered : Nat := 0
  /-- How many columns they cover, or have covered in the last drawing. -/
  stale : Nat := 0

namespace Sending

/-- Writes characters from a column on, one in each cell. Those beyond the edge are lost. -/
def write (colour : Colour) : List Char → (column : Nat) → Array Cell → Array Cell
  | [], _, cells => cells
  | c :: rest, column, cells =>
    write colour rest (column + 1) (cells.setIfInBounds column { symbol := c, colour := colour })

/-- Sends the tile of a column if need be, of which `old` was there in the last drawing. -/
def step (s : Sending) (column : Nat) (old new : Tile) : Sending :=
  let isSent : Bool := s.covered = 0 ∧ (new ≠ old ∨ 0 < s.stale)
  let start := s.pen.getD column
  { cells := if isSent then write new.colour new.chars start s.cells else s.cells
    pen := if isSent then some (start + new.chars.length) else none
    covered := new.width - 1
    stale := max (max old.width new.width) s.stale - 1 }

/-- The first `count` tiles of a row have been sent. -/
def after (cells : Array Cell) (old new : Nat → Tile) : (count : Nat) → Sending
  | 0 => { cells := cells }
  | count + 1 => (after cells old new count).step count (old count) (new count)

end Sending

/-- A terminal: what it shows, and what the last drawing has put there. -/
structure Surface where
  shown : Grid Cell
  drawn : Grid Tile
deriving DecidableEq

namespace Surface

/-- An empty terminal. -/
def new (width height : Nat) : Surface :=
  { shown := Grid.blank width height, drawn := Grid.blank width height }

def width (s : Surface) : Nat := s.shown.width

def height (s : Surface) : Nat := s.shown.height

/-- Empties the screen; what the next drawing shows is sent again. -/
def clear (s : Surface) : Surface :=
  { shown := Grid.blank s.width s.height, drawn := Grid.blank s.drawn.width s.drawn.height }

/-- The terminal changes its size. Cells stay where they fit, and new ones are empty. -/
def resize (s : Surface) (width height : Nat) : Surface :=
  { s with shown := Grid.ofRows width height fun row =>
      if row < s.height then ((s.shown.row row).take width).toArray else #[] }

/-- The last drawing has the size of the terminal. -/
def SameSize (s : Surface) : Prop := s.drawn.width = s.width ∧ s.drawn.height = s.height

instance (s : Surface) : Decidable s.SameSize := inferInstanceAs (Decidable (_ ∧ _))

/-- The terminal before a drawing is sent: empty if its size has changed. -/
def prepare (s : Surface) : Surface := if s.SameSize then s else new s.width s.height

/-- Sends what differs from the last drawing. -/
def send (s : Surface) (drawing : Grid Tile) : Surface :=
  { shown := Grid.ofRows s.width s.height fun row =>
      (Sending.after (s.shown.row row).toArray (s.drawn.cell · row) (drawing.cell · row)
        s.width).cells
    drawn := drawing }

/-- Draws the rows that `rows width height` gives for the size of the terminal. -/
def draw (s : Surface) (rows : Nat → Nat → Nat → List Tile) : Surface :=
  s.prepare.send (Grid.ofRows s.width s.height fun row => (rows s.width s.height row).toArray)

/-- A row consists of single characters and shows what the last drawing has put there. -/
def InStepAt (s : Surface) (row : Nat) : Prop :=
  ∀ column, column < s.width →
    (s.drawn.cell column row).IsSingle ∧ s.shown.cell column row = (s.drawn.cell column row).cell

end Surface

/-! ## Rows of single characters -/

namespace Sending

@[simp] theorem write_single (colour : Colour) (c : Char) (column : Nat) (cells : Array Cell) :
    write colour [c] column cells =
      cells.setIfInBounds column { symbol := c, colour := colour } := rfl

theorem write_of_isSingle {t : Tile} (h : t.IsSingle) (column : Nat) (cells : Array Cell) :
    write t.colour t.chars column cells = cells.setIfInBounds column t.cell := by
  obtain ⟨c, hc⟩ := List.length_eq_one_iff.1 h.1
  simp [hc, Tile.cell]

/-- The pen stands at the next column or nowhere, and nothing is covered. -/
structure Plain (s : Sending) (column : Nat) : Prop where
  pen : s.pen.getD column = column
  covered : s.covered = 0
  stale : s.stale = 0

theorem plain_step {s : Sending} {column : Nat} (h : s.Plain column) {old new : Tile}
    (ho : old.IsSingle) (hn : new.IsSingle) : (s.step column old new).Plain (column + 1) := by
  refine ⟨?_, ?_, ?_⟩
  · simp only [step, h.pen, hn.1]
    split <;> rfl
  · simp only [step, hn.2]
  · simp only [step, ho.2, hn.2, h.stale]
    rfl

theorem cells_step {s : Sending} {column : Nat} (h : s.Plain column) {old new : Tile}
    (hn : new.IsSingle) :
    (s.step column old new).cells =
      if new = old then s.cells else s.cells.setIfInBounds column new.cell := by
  simp only [step, h.pen, h.covered, h.stale, write_of_isSingle hn]
  by_cases he : new = old <;> simp [he]

theorem plain_after {cells : Array Cell} {old new : Nat → Tile} {count : Nat}
    (ho : ∀ column, column < count → (old column).IsSingle)
    (hn : ∀ column, column < count → (new column).IsSingle) :
    (after cells old new count).Plain count := by
  induction count with
  | zero => exact ⟨rfl, rfl, rfl⟩
  | succ count ih =>
    have hprefix := ih (fun c hc => ho c (by omega)) (fun c hc => hn c (by omega))
    exact plain_step hprefix (ho count (by omega)) (hn count (by omega))

theorem size_cells_after {cells : Array Cell} {old new : Nat → Tile} {count : Nat}
    (ho : ∀ column, column < count → (old column).IsSingle)
    (hn : ∀ column, column < count → (new column).IsSingle) :
    (after cells old new count).cells.size = cells.size := by
  induction count with
  | zero => rfl
  | succ count ih =>
    have ho' : ∀ column, column < count → (old column).IsSingle := fun c hc => ho c (by omega)
    have hn' : ∀ column, column < count → (new column).IsSingle := fun c hc => hn c (by omega)
    rw [after, cells_step (plain_after ho' hn') (hn count (by omega))]
    split
    · exact ih ho' hn'
    · rw [Array.size_setIfInBounds]
      exact ih ho' hn'

/-- Where a tile differs from the last drawing its character is put, and elsewhere the cell
stays. -/
theorem getElem?_cells_after {cells : Array Cell} {old new : Nat → Tile} {count : Nat}
    (ho : ∀ column, column < count → (old column).IsSingle)
    (hn : ∀ column, column < count → (new column).IsSingle) {column : Nat}
    (hc : column < cells.size) :
    (after cells old new count).cells[column]? =
      if column < count ∧ new column ≠ old column then some (new column).cell
      else cells[column]? := by
  induction count with
  | zero => simp [after]
  | succ count ih =>
    have ho' : ∀ column, column < count → (old column).IsSingle := fun c hc => ho c (by omega)
    have hn' : ∀ column, column < count → (new column).IsSingle := fun c hc => hn c (by omega)
    have hsize : (after cells old new count).cells.size = cells.size := size_cells_after ho' hn'
    rw [after, cells_step (plain_after ho' hn') (hn count (by omega))]
    by_cases he : column = count
    · subst he
      by_cases hsame : new column = old column
      · simp [hsame, ih ho' hn']
      · simp [hsame, hsize, hc]
    · have hlt : column < count + 1 ↔ column < count := by omega
      split
      · simp only [ih ho' hn', hlt]
      · rw [Array.getElem?_setIfInBounds_ne (fun h => he h.symm)]
        simp only [ih ho' hn', hlt]

end Sending

namespace Surface

theorem width_prepare (s : Surface) : s.prepare.width = s.width := by
  unfold prepare; split <;> rfl

theorem height_prepare (s : Surface) : s.prepare.height = s.height := by
  unfold prepare; split <;> rfl

theorem inStepAt_new (width height row : Nat) : (new width height).InStepAt row := by
  intro column _
  simp [new, Tile.cell]
  exact ⟨Tile.isSingle_blank, rfl⟩

theorem inStepAt_prepare {s : Surface} {row : Nat} (h : s.InStepAt row) :
    s.prepare.InStepAt row := by
  unfold prepare
  split
  · exact h
  · exact inStepAt_new _ _ row

/-- What a drawing puts into a column of a row. -/
theorem cell_drawn_draw (s : Surface) {row : Nat} (hr : row < s.height)
    (rows : Nat → Nat → Nat → List Tile) (column : Nat) :
    (s.draw rows).drawn.cell column row =
      (rows s.width s.height row)[column]?.getD default := by
  rw [draw, send, Grid.cell_ofRows _ _ _ hr, List.getElem?_toArray]

theorem isSingle_getD {tiles : List Tile} (h : ∀ t ∈ tiles, t.IsSingle) (column : Nat) :
    (tiles[column]?.getD default).IsSingle := by
  cases ht : tiles[column]? with
  | none => exact Tile.isSingle_blank
  | some t => exact h t (List.mem_of_getElem? ht)

/-- A row of single characters that is in step with the last drawing shows the next one. -/
theorem cell_shown_draw {s : Surface} {row : Nat} (h : s.InStepAt row) (hr : row < s.height)
    {rows : Nat → Nat → Nat → List Tile}
    (hs : ∀ t ∈ rows s.width s.height row, t.IsSingle) {column : Nat} (hc : column < s.width) :
    (s.draw rows).shown.cell column row =
      ((rows s.width s.height row)[column]?.getD default).cell := by
  have hp := inStepAt_prepare h
  have hw : s.prepare.shown.width = s.width := width_prepare s
  have hcells : ((s.prepare.shown.row row).toArray)[column]? =
      some (s.prepare.shown.cell column row) := by
    simp [Grid.row, hw, hc]
  have hsize : column < ((s.prepare.shown.row row).toArray).size :=
    (Array.getElem?_eq_some_iff.1 hcells).1
  have hdrawn := cell_drawn_draw s hr rows
  have hsingle : ∀ c, c < s.prepare.width → ((s.draw rows).drawn.cell c row).IsSingle :=
    fun c _ => by rw [hdrawn]; exact isSingle_getD hs c
  rw [← hdrawn column]
  show (s.prepare.send (s.draw rows).drawn).shown.cell column row = _
  rw [send, Grid.cell_ofRows _ _ _ (by rwa [height_prepare]),
    Sending.getElem?_cells_after (fun c hc' => (hp c hc').1) hsingle hsize]
  by_cases hsame : (s.draw rows).drawn.cell column row = s.prepare.drawn.cell column row
  · rw [if_neg (fun hne => hne.2 hsame), hcells, hsame]
    exact (hp column (by rwa [width_prepare])).2
  · rw [if_pos ⟨by rwa [width_prepare], hsame⟩]
    rfl

/-- A drawing leaves a row of single characters in step. -/
theorem inStepAt_draw {s : Surface} {row : Nat} (h : s.InStepAt row) (hr : row < s.height)
    {rows : Nat → Nat → Nat → List Tile} (hs : ∀ t ∈ rows s.width s.height row, t.IsSingle) :
    (s.draw rows).InStepAt row := by
  intro column hc
  have hw : (s.draw rows).width = s.width := width_prepare s
  rw [hw] at hc
  rw [cell_shown_draw h hr hs hc, cell_drawn_draw s hr]
  exact ⟨isSingle_getD hs column, rfl⟩

end Surface

end Chip8.Terminal
