import Chip8.Proofs.Drawing
import Mathlib.Data.List.Basic

/-!
# Many drawings

Every drawing flips pixels, and flipping does not mind what has been flipped before. So drawings may
be done in any order, and a second round of the same ones undoes the first. A single drawing is made
of its rows in the same way.

Results:
* `drawn_comm`, `drawn_drawn`: two drawings can change places, and one done twice does nothing.
* `drawn_of_perm`, `drawn_of_perm_twice`: the same for lists of drawings.
* `draw_eq_drawAll_rows`: a drawing is the drawing of its rows that fall on the grid.
* `drawings_are_flips`: all laws together, on the screen and with what is told of turned off pixels.
-/

namespace Chip8

/-- One drawing: where the corner of the sprite goes, and its rows. -/
structure Stroke where
  x : Nat
  y : Nat
  sprite : List UInt8

namespace Stroke

/-- The same drawing, but for the turns that its corner takes around the grid. -/
structure Congruent (s t : Stroke) : Prop where
  x_eq : s.x % 64 = t.x % 64
  y_eq : s.y % 32 = t.y % 32
  sprite_eq : s.sprite = t.sprite

/-- Each byte as a stroke of its own, each one row below the one before. -/
def stacked (x y : Nat) : List UInt8 → List Stroke
  | [] => []
  | byte :: rest => { x := x, y := y, sprite := [byte] } :: stacked x (y + 1) rest

/-- The rows of a stroke that fall on the grid, as strokes of their own. -/
def rows (s : Stroke) : List Stroke := stacked s.x s.y (s.sprite.take (32 - s.y % 32))

end Stroke

namespace Bitmap

/-- The grid after a stroke. -/
def drawn (g : Bitmap) (s : Stroke) : Bitmap := (g.draw s.x s.y s.sprite).1

/-! ## Order -/

theorem drawn_comm (g : Bitmap) (s t : Stroke) : (g.drawn s).drawn t = (g.drawn t).drawn s := by
  apply ext_pixel
  intro cx cy
  simp only [drawn, pixel_draw]
  rw [Bool.xor_assoc, Bool.xor_assoc, Bool.xor_comm (covers s.sprite s.x s.y cx cy)]

theorem drawn_drawn (g : Bitmap) (s : Stroke) : (g.drawn s).drawn s = g := by
  apply ext_pixel
  intro cx cy
  simp only [drawn, pixel_draw]
  rw [Bool.xor_assoc, Bool.xor_self, Bool.xor_false]

theorem drawn_of_perm {strokes strokes' : List Stroke} (h : strokes.Perm strokes') (g : Bitmap) :
    strokes.foldl drawn g = strokes'.foldl drawn g :=
  h.foldl_eq' (fun s _ t _ g => drawn_comm g s t) g

/-- Strokes that come in pairs leave nothing behind. -/
theorem drawn_of_perm_twice {strokes twice : List Stroke} (h : twice.Perm (strokes ++ strokes))
    (g : Bitmap) : twice.foldl drawn g = g := by
  rw [drawn_of_perm h g]
  clear h
  induction strokes generalizing g with
  | nil => rfl
  | cons s rest ih =>
    have hpairs : (s :: rest ++ s :: rest).Perm (s :: s :: (rest ++ rest)) :=
      List.Perm.cons s List.perm_middle
    rw [drawn_of_perm hpairs g, List.foldl_cons, List.foldl_cons, drawn_drawn]
    exact ih g

/-! ## Rows -/

/-- Rows below the grid cover no pixel. -/
theorem covers_take (sprite : List UInt8) (x y cx cy : Nat) :
    covers (sprite.take (32 - y % 32)) x y cx cy = covers sprite x y cx cy := by
  by_cases hin : cy < 32 ∧ y % 32 ≤ cy
  · have hrow : cy - y % 32 < 32 - y % 32 := by omega
    simp only [covers, spriteBit, List.getElem?_take_of_lt hrow]
  · rw [Bool.eq_iff_iff, covers_eq_true_iff, covers_eq_true_iff]
    constructor
    · rintro ⟨-, hcy, -, hy, -⟩
      exact absurd ⟨hcy, hy⟩ hin
    · rintro ⟨-, hcy, -, hy, -⟩
      exact absurd ⟨hcy, hy⟩ hin

theorem draw_take (g : Bitmap) (x y : Nat) (sprite : List UInt8) :
    g.draw x y (sprite.take (32 - y % 32)) = g.draw x y sprite :=
  draw_congr (covers_take sprite x y) g

/-- Where all rows fall on the grid, the first one can be drawn on its own. -/
theorem draw_cons (g : Bitmap) (x : Nat) {y : Nat} (byte : UInt8) {rest : List UInt8}
    (h : y % 32 + (rest.length + 1) ≤ 32) :
    g.draw x y (byte :: rest) =
      (((g.draw x y [byte]).1.draw x (y + 1) rest).1,
        (g.draw x y [byte]).2 || ((g.draw x y [byte]).1.draw x (y + 1) rest).2) := by
  have hfirst : g.draw x y [byte] = g.drawRow (x % 64) (y % 32) byte := by
    simp only [draw, drawRows, Bool.or_false]
  have hothers (g' : Bitmap) :
      g'.drawRows (x % 64) (y % 32 + 1) rest = g'.draw x (y + 1) rest := by
    cases rest with
    | nil => rfl
    | cons next later =>
      have hnext : (y + 1) % 32 = y % 32 + 1 := by
        rw [List.length_cons] at h
        omega
      rw [draw, hnext]
  rw [hfirst, ← hothers]
  rfl

end Bitmap

namespace Screen

/-! ## On the screen -/

/-- Draws strokes one after the other. Each flag tells whether its stroke turned off a lit pixel. -/
def drawAll (s : Screen) : List Stroke → Screen × List Bool
  | [] => (s, [])
  | stroke :: rest =>
    let first := s.draw stroke.x stroke.y stroke.sprite
    let others := first.1.drawAll rest
    (others.1, first.2 :: others.2)

theorem bitmap_drawAll (s : Screen) (strokes : List Stroke) :
    (s.drawAll strokes).1.bitmap = strokes.foldl Bitmap.drawn s.bitmap := by
  induction strokes generalizing s with
  | nil => rfl
  | cons stroke rest ih => exact ih _

theorem draw_of_congruent {stroke stroke' : Stroke} (h : stroke.Congruent stroke') (s : Screen) :
    s.draw stroke.x stroke.y stroke.sprite = s.draw stroke'.x stroke'.y stroke'.sprite := by
  simp only [draw, Bitmap.draw, h.x_eq, h.y_eq, h.sprite_eq]

theorem drawAll_of_congruent {strokes strokes' : List Stroke}
    (h : List.Forall₂ Stroke.Congruent strokes strokes') (s : Screen) :
    s.drawAll strokes = s.drawAll strokes' := by
  induction h generalizing s with
  | nil => rfl
  | cons hfirst hrest ih => simp only [drawAll, draw_of_congruent hfirst, ih]

theorem drawAll_stacked (s : Screen) (x y : Nat) {sprite : List UInt8}
    (h : y % 32 + sprite.length ≤ 32) :
    (s.drawAll (Stroke.stacked x y sprite)).1.bitmap = (s.bitmap.draw x y sprite).1 ∧
      (s.drawAll (Stroke.stacked x y sprite)).2.any id = (s.bitmap.draw x y sprite).2 := by
  induction sprite generalizing s y with
  | nil => exact ⟨rfl, rfl⟩
  | cons byte rest ih =>
    have hrest : (y + 1) % 32 + rest.length ≤ 32 := by
      rw [List.length_cons] at h
      omega
    obtain ⟨hbitmap, hflags⟩ := ih (s.draw x y [byte]).1 (y + 1) hrest
    rw [Bitmap.draw_cons s.bitmap x byte h]
    refine ⟨hbitmap, ?_⟩
    rw [Stroke.stacked, drawAll, List.any_cons, hflags]
    rfl

/-- A drawing is the drawing of its rows that fall on the grid. -/
theorem draw_eq_drawAll_rows (s : Screen) (stroke : Stroke) :
    (s.drawAll stroke.rows).1.bitmap = (s.draw stroke.x stroke.y stroke.sprite).1.bitmap ∧
      (s.drawAll stroke.rows).2.any id = (s.draw stroke.x stroke.y stroke.sprite).2 := by
  have hroom : stroke.y % 32 + (stroke.sprite.take (32 - stroke.y % 32)).length ≤ 32 := by
    have hmod := Nat.mod_lt stroke.y (show 0 < 32 by decide)
    rw [List.length_take]
    omega
  have hrows := s.drawAll_stacked stroke.x stroke.y hroom
  rw [Bitmap.draw_take] at hrows
  exact hrows

/-- Drawings on any screen, with corners and sprites of any size. A list of them leaves the same
pixels in every order. Done a second time, in whatever orders, it leaves the pixels as they were at
first. Corners that differ by turns around the grid draw the same and tell the same. And a drawing
leaves the same pixels as the drawings of its single rows, each one row further down, with those
below the grid left out; it turns off a lit pixel if one of them does. -/
theorem drawings_are_flips (s : Screen) :
    (∀ strokes strokes' : List Stroke, strokes.Perm strokes' →
      (s.drawAll strokes).1.bitmap = (s.drawAll strokes').1.bitmap) ∧
    (∀ first second : List Stroke, first.Perm second →
      ((s.drawAll first).1.drawAll second).1.bitmap = s.bitmap) ∧
    (∀ strokes strokes' : List Stroke, List.Forall₂ Stroke.Congruent strokes strokes' →
      s.drawAll strokes = s.drawAll strokes') ∧
    (∀ stroke : Stroke,
      (s.drawAll stroke.rows).1.bitmap = (s.draw stroke.x stroke.y stroke.sprite).1.bitmap ∧
      (s.drawAll stroke.rows).2.any id = (s.draw stroke.x stroke.y stroke.sprite).2) := by
  refine ⟨?_, ?_, fun _ _ h => drawAll_of_congruent h s, s.draw_eq_drawAll_rows⟩
  · intro strokes strokes' h
    rw [bitmap_drawAll, bitmap_drawAll]
    exact Bitmap.drawn_of_perm h s.bitmap
  · intro first second h
    have htwice : (first ++ second).Perm (first ++ first) := h.symm.append_left first
    rw [bitmap_drawAll, bitmap_drawAll, ← List.foldl_append]
    exact Bitmap.drawn_of_perm_twice htwice s.bitmap

/-- Two drawings that overlap in the upper right corner, the second of which turns off what the first
has lit; one of them as far out as it can be, or in the same place on the grid. -/
theorem drawings_are_flips_overlapping :
    let far : Stroke := { x := 0xFFFFFFFFFFFFFFFF, y := 0xFFFFFFFFFFFFFFE0, sprite := [0x80] }
    let near : Stroke := { x := 63, y := 0, sprite := [0x80] }
    let wide : Stroke := { x := 60, y := 0, sprite := [0xF0, 0xFF] }
    let s := initial
    ([far, wide].Perm [wide, far] ∧
      (s.drawAll [far, wide]).1.bitmap = (s.drawAll [wide, far]).1.bitmap ∧
      ((s.drawAll [far, wide]).1.drawAll [wide, far]).1.bitmap = s.bitmap) ∧
    (List.Forall₂ Stroke.Congruent [far, wide] [near, wide] ∧
      s.drawAll [far, wide] = s.drawAll [near, wide]) ∧
    (s.drawAll [near, wide]).2 = [false, true] := by
  intro far near wide s
  obtain ⟨horder, htwice, hcongruent, -⟩ := drawings_are_flips s
  have hperm : [far, wide].Perm [wide, far] := List.Perm.swap wide far []
  have hsame : far.Congruent near := ⟨by decide, by decide, rfl⟩
  have hlists : List.Forall₂ Stroke.Congruent [far, wide] [near, wide] :=
    .cons hsame (.cons ⟨rfl, rfl, rfl⟩ .nil)
  exact ⟨⟨hperm, horder _ _ hperm, htwice _ _ hperm⟩, ⟨hlists, hcongruent _ _ hlists⟩,
    by decide +kernel⟩

end Screen

end Chip8
