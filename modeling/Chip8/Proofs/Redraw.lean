import Chip8.Terminal.View

/-!
# What a redraw leaves on the terminal

The rows of the game box between its edges are made of single characters, whatever the title and
the status are. So these rows of the terminal keep in step with what is drawn, and after a redraw
each pixel of the picture is to be seen in its cell.

Results:
* `isSingle_row_scene`: a row with pixels is made of single characters.
* `fits_new`, `fits_redraw`: a terminal that is high enough keeps in step from the beginning.
* `shows_redraw`: after a redraw the cells show the picture.
* `shows_setStatus`, `shows_present`: so they do when the status or the picture is a new one.
-/

namespace Chip8.Terminal

open Text (Symbol)

/-! ## Rows of single characters -/

theorem isSingle_of_mem_fill {width : Nat} {pad : Tile} (hp : pad.IsSingle) {tiles : List Tile}
    (h : ∀ t ∈ tiles, t.IsSingle) : ∀ t ∈ fill width pad tiles, t.IsSingle := by
  intro t ht
  rcases List.mem_append.1 ht with ht | ht
  · exact h t (List.mem_of_mem_take ht)
  · rw [List.eq_of_mem_replicate ht]
    exact hp

namespace Box

theorem isSingle_tile (b : Box) (c : Char) : (b.tile c).IsSingle := Tile.isSingle_ofChar b.colour c

/-- A line of plain characters shows single characters only. -/
theorem isSingle_of_mem_lineTiles (b : Box) (room : Nat) (cs : List Char) :
    ∀ t ∈ b.lineTiles room (cs.map Symbol.plain), t.IsSingle := by
  refine isSingle_of_mem_fill (b.isSingle_tile ' ') fun t ht => ?_
  rcases List.mem_append.1 ht with ht | ht
  · rw [List.eq_of_mem_replicate ht]
    exact b.isSingle_tile ' '
  · rw [List.filter_map, fitting_plain, tilesOf_plain] at ht
    obtain ⟨c, -, rfl⟩ := List.mem_map.1 ht
    exact b.isSingle_tile c

theorem isSingle_of_mem_framed {left right : Tile} (hl : left.IsSingle) (hr : right.IsSingle)
    {middle : Nat → List Tile} (h : ∀ room, ∀ t ∈ middle room, t.IsSingle) (width : Nat) :
    ∀ t ∈ framed left right middle width, t.IsSingle := by
  match width with
  | 0 => exact fun t ht => nomatch ht
  | 1 => exact List.forall_mem_singleton.2 hl
  | width + 2 =>
    intro t ht
    rw [framed, List.mem_cons, List.mem_append, List.mem_singleton] at ht
    rcases ht with rfl | ht | rfl
    · exact hl
    · exact isSingle_of_mem_fill Tile.isSingle_blank (h width) t ht
    · exact hr

theorem isSingle_of_mem_row_inner (b : Box) {row : Nat} {cs : List Char}
    (hline : b.lines[row]?.getD [] = cs.map Symbol.plain) (width : Nat) {height : Nat}
    (hr : row + 2 < height) : ∀ t ∈ b.row width height (row + 1), t.IsSingle := by
  rw [Box.row, if_neg (by omega), if_neg (by omega), Nat.add_sub_cancel, hline]
  exact isSingle_of_mem_framed (b.isSingle_tile '│') (b.isSingle_tile '│')
    (fun room => b.isSingle_of_mem_lineTiles room cs) width

end Box

/-! ## The game box -/

/-- The column of the left edge of the game box. -/
def gameColumn (width : Nat) : Nat := if gameWidth < width then (width - gameWidth + 1) / 2 else 0

theorem left_gameArea (width height : Nat) : (gameArea width height).left = gameColumn width := by
  unfold gameArea gameColumn
  split <;> rfl

theorem gameColumn_of_le {width : Nat} (h : width ≤ 66) : gameColumn width = 0 :=
  if_neg (Nat.not_lt.2 h)

namespace View

theorem exists_gameBox_line (v : View) (y : Nat) :
    ∃ cs : List Char, v.gameBox.lines[y]?.getD [] = cs.map Symbol.plain := by
  by_cases hy : y < 32
  · cases hg : v.picture with
    | none => exact ⟨[], by simp [gameBox, hg]⟩
    | some g => exact ⟨g.rowText y, by simp [gameBox, hg, getElem?_pictureLines g hy]⟩
  · have hlength : v.gameBox.lines.length ≤ y := by
      cases hg : v.picture with
      | none => simp [gameBox, hg]
      | some g => simpa [gameBox, hg, pictureLines, Bitmap.height] using hy
    exact ⟨[], by rw [List.getElem?_eq_none hlength]; rfl⟩

theorem isSingle_row_scene (v : View) (width : Nat) {height y : Nat} (hh : 42 ≤ height)
    (hy : y < 32) : ∀ t ∈ v.scene.row width height (1 + y), t.IsSingle := by
  have harea : (gameArea width height).top = 0 ∧ (gameArea width height).height = 34 := by
    unfold gameArea
    split <;> exact ⟨rfl, gameRows_of_le hh⟩
  have hin : (gameArea width height).hasRow (1 + y) := by
    simp only [Area.hasRow, harea, Bool.and_eq_true, decide_eq_true_eq]
    omega
  obtain ⟨cs, hline⟩ := v.exists_gameBox_line y
  simp only [Scene.row, if_pos hin, harea, scene, Nat.sub_zero]
  intro t ht
  rcases List.mem_append.1 ht with ht | ht
  · rw [List.eq_of_mem_replicate ht]
    exact Tile.isSingle_blank
  · rw [Nat.add_comm] at ht
    exact v.gameBox.isSingle_of_mem_row_inner hline _ (by omega) t ht

/-! ## Redraws -/

/-- The terminal has the given size, and its rows with pixels show what was last drawn there. -/
structure Fits (v : View) (width height : Nat) : Prop where
  width_eq : v.surface.width = width
  height_eq : v.surface.height = height
  inStepAt : ∀ y < 32, v.surface.InStepAt (1 + y)

/-- The terminal shows each pixel in its cell: a full block if it is lit, and otherwise a blank. -/
def Shows (v : View) (width : Nat) (g : Bitmap) : Prop :=
  ∀ x y, x < 64 → x + 2 < width → y < 32 →
    v.surface.shown.cell (gameColumn width + 1 + x) (1 + y) =
      { symbol := if g.pixel x y then '█' else ' ', colour := .white }

theorem fits_new (width height : Nat) (title : String) :
    (new width height title).Fits width height :=
  ⟨rfl, rfl, fun y _ => Surface.inStepAt_new width height (1 + y)⟩

variable {v : View} {width height : Nat}

/-- What a redraw sends to a row with pixels can be sent there. -/
theorem Fits.isSingle_row (h : v.Fits width height) (hh : 42 ≤ height) {y : Nat} (hy : y < 32) :
    1 + y < v.surface.height ∧
      ∀ t ∈ v.scene.row v.surface.width v.surface.height (1 + y), t.IsSingle := by
  rw [h.height_eq]
  exact ⟨by omega, v.isSingle_row_scene v.surface.width hh hy⟩

theorem fits_redraw (h : v.Fits width height) (hh : 42 ≤ height) :
    v.redraw.Fits width height := by
  refine ⟨(Surface.width_prepare _).trans h.width_eq, (Surface.height_prepare _).trans h.height_eq,
    fun y hy => ?_⟩
  obtain ⟨hrow, hsingle⟩ := h.isSingle_row hh hy
  exact Surface.inStepAt_draw (h.inStepAt y hy) hrow hsingle

theorem shows_redraw (h : v.Fits width height) (hh : 42 ≤ height) {g : Bitmap}
    (hg : v.picture = some g) : v.redraw.Shows width g := by
  intro x y hx hw hy
  obtain ⟨hrow, hsingle⟩ := h.isSingle_row hh hy
  have hcolumn : gameColumn width + 1 + x < v.surface.width := by
    rw [h.width_eq]
    unfold gameColumn gameWidth Bitmap.width
    split <;> omega
  have htile := v.getElem?_row_scene_eq_picture hg hh hx hw hy
  rw [left_gameArea] at htile
  refine (Surface.cell_shown_draw (h.inStepAt y hy) hrow hsingle hcolumn).trans ?_
  rw [h.width_eq, h.height_eq, htile]
  rfl

theorem fits_setStatus (h : v.Fits width height) (hh : 42 ≤ height) (status : String) :
    (v.setStatus status).Fits width height :=
  fits_redraw (v := { v with status := status }) ⟨h.width_eq, h.height_eq, h.inStepAt⟩ hh

theorem shows_setStatus (h : v.Fits width height) (hh : 42 ≤ height) (status : String) {g : Bitmap}
    (hg : v.picture = some g) : (v.setStatus status).Shows width g :=
  shows_redraw (v := { v with status := status }) ⟨h.width_eq, h.height_eq, h.inStepAt⟩ hh hg

theorem fits_present (h : v.Fits width height) (hh : 42 ≤ height) (g : Bitmap) :
    (v.present g).Fits width height :=
  fits_redraw (v := { v with picture := some g }) ⟨h.width_eq, h.height_eq, h.inStepAt⟩ hh

theorem shows_present (h : v.Fits width height) (hh : 42 ≤ height) (g : Bitmap) :
    (v.present g).Shows width g :=
  shows_redraw (v := { v with picture := some g }) ⟨h.width_eq, h.height_eq, h.inStepAt⟩ hh rfl

end View

end Chip8.Terminal
