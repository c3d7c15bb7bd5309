import Chip8.Proofs.Drawing
import Mathlib.Algebra.BigOperators.Group.Finset.Sigma
import Mathlib.Algebra.BigOperators.Ring.Finset
import Mathlib.Algebra.GroupWithZero.Nat

/-!
# Counting lit pixels

A lit bit of a sprite that falls on the grid either lights a dark pixel or turns off a lit one, and
no two of them fall on the same pixel. So the number of lit pixels after a drawing can be told from
the number before it, the bits that fall on the grid and the pixels that were turned off.

Results:
* `litCount_eq_card`, `count_text`: the lit pixels, counted by rows, by places and in the text.
* `card_coveredPlaces`: each bit that falls on the grid has a pixel of its own.
* `card_litPlaces_draw`: the lit pixels after a drawing, by places.
* `lit_pixels_add_up`: what a drawing makes of the count, and what its flag says about it.
-/

namespace Chip8

namespace Bitmap

/-! ## Places -/

/-- The places of the grid, the column first. -/
def places : Finset (Nat × Nat) := Finset.range 64 ×ˢ Finset.range 32

theorem mem_places {p : Nat × Nat} : p ∈ places ↔ p.1 < 64 ∧ p.2 < 32 := by
  rw [places, Finset.mem_product, Finset.mem_range, Finset.mem_range]

/-- The places of the lit pixels. -/
def litPlaces (g : Bitmap) : Finset (Nat × Nat) := places.filter fun p => g.pixel p.1 p.2 = true

/-- The places of the pixels that are lit in the first grid and dark in the second. -/
def turnedOff (g g' : Bitmap) : Finset (Nat × Nat) :=
  places.filter fun p => g.pixel p.1 p.2 = true ∧ g'.pixel p.1 p.2 = false

theorem loses_iff_turnedOff {g g' : Bitmap} : g.Loses g' ↔ 0 < (g.turnedOff g').card := by
  rw [Finset.card_pos]
  simp only [Finset.Nonempty, turnedOff, Finset.mem_filter, mem_places]
  constructor
  · rintro ⟨cx, hcx, cy, hcy, hlost⟩
    exact ⟨(cx, cy), ⟨hcx, hcy⟩, hlost⟩
  · rintro ⟨p, ⟨hcx, hcy⟩, hlost⟩
    exact ⟨p.1, hcx, p.2, hcy, hlost⟩

/-! ## Three ways to count -/

theorem litCount_eq_sum (g : Bitmap) :
    g.litCount = ((List.range 32).map fun y => (List.range 64).countP (g.pixel · y)).sum := by
  have hrows : g.rows.toList = (List.range 32).map fun y => g.rows[y]?.getD 0#64 := by
    apply List.ext_getElem
    · simp
    · intro y hy _
      have hy' : y < 32 := by simpa using hy
      simp [hy']
  rw [litCount, hrows, List.foldr_map, List.sum, List.foldr_map]
  rfl

theorem litCount_eq_card (g : Bitmap) : g.litCount = g.litPlaces.card := by
  have hrow (y : Nat) : (List.range 64).countP (g.pixel · y) =
      ∑ x ∈ Finset.range 64, if g.pixel x y = true then 1 else 0 := by
    rw [← Finset.card_filter, List.countP_eq_length_filter,
      ← List.toFinset_card_of_nodup (List.nodup_range.filter _)]
    congr 1
    ext x
    rw [List.mem_toFinset, List.mem_filter, List.mem_range, Finset.mem_filter, Finset.mem_range]
  rw [litPlaces, places, Finset.card_filter, Finset.sum_product_right, litCount_eq_sum]
  simp only [hrow]
  rfl

/-- The text has as many full blocks as the grid has lit pixels. -/
theorem count_text (g : Bitmap) : g.text.toList.count '█' = g.litCount := by
  have hrow (y : Nat) :
      (g.rowText y ++ ['\n']).count '█' = (List.range 64).countP (g.pixel · y) := by
    have hblock (x : Nat) : ((if g.pixel x y then '█' else ' ') == '█') = g.pixel x y := by
      cases g.pixel x y <;> rfl
    rw [rowText, List.count_append, List.count, List.countP_map]
    simp only [Function.comp_def, hblock]
    rfl
  rw [text, String.toList_ofList, List.count_flatMap, litCount_eq_sum]
  simp only [Function.comp_def, hrow]

/-! ## The bits that fall on the grid -/

/-- The lit bits of a sprite that fall on the grid when its corner is at (`x`, `y`), the column
first. -/
def landing (sprite : List UInt8) (x y : Nat) : Finset (Nat × Nat) :=
  (Finset.range 8 ×ˢ Finset.range sprite.length).filter fun b =>
    spriteBit sprite b.1 b.2 = true ∧ x % 64 + b.1 < 64 ∧ y % 32 + b.2 < 32

theorem mem_landing {sprite : List UInt8} {x y : Nat} {b : Nat × Nat} :
    b ∈ landing sprite x y ↔ (b.1 < 8 ∧ b.2 < sprite.length) ∧
      spriteBit sprite b.1 b.2 = true ∧ x % 64 + b.1 < 64 ∧ y % 32 + b.2 < 32 := by
  simp only [landing, Finset.mem_filter, Finset.mem_product, Finset.mem_range]

theorem lt_of_spriteBit {sprite : List UInt8} {dx dy : Nat} (h : spriteBit sprite dx dy = true) :
    dx < 8 ∧ dy < sprite.length := by
  refine ⟨BitVec.lt_of_getMsbD h, ?_⟩
  by_contra hdy
  rw [spriteBit, List.getElem?_eq_none (Nat.not_lt.1 hdy)] at h
  have hdark : (0#8).getMsbD dx = true := h
  rw [BitVec.getMsbD_zero] at hdark
  cases hdark

/-- The places of the pixels that the sprite covers. -/
def coveredPlaces (sprite : List UInt8) (x y : Nat) : Finset (Nat × Nat) :=
  places.filter fun p => covers sprite x y p.1 p.2 = true

theorem mem_coveredPlaces {sprite : List UInt8} {x y : Nat} {p : Nat × Nat} :
    p ∈ coveredPlaces sprite x y ↔ covers sprite x y p.1 p.2 = true := by
  rw [coveredPlaces, Finset.mem_filter, mem_places]
  constructor
  · rintro ⟨-, hcovers⟩
    exact hcovers
  · intro hcovers
    obtain ⟨hcx, hcy, -⟩ := covers_eq_true_iff.1 hcovers
    exact ⟨⟨hcx, hcy⟩, hcovers⟩

/-- The place that the bit in column `b.1` of row `b.2` falls on. -/
def placeOf (x y : Nat) (b : Nat × Nat) : Nat × Nat := (x % 64 + b.1, y % 32 + b.2)

theorem placeOf_injective (x y : Nat) : Function.Injective (placeOf x y) := by
  rintro ⟨dx, dy⟩ ⟨dx', dy'⟩ h
  simp only [placeOf, Prod.mk.injEq, Nat.add_left_cancel_iff] at h
  exact Prod.ext h.1 h.2

theorem coveredPlaces_eq_image (sprite : List UInt8) (x y : Nat) :
    coveredPlaces sprite x y = (landing sprite x y).image (placeOf x y) := by
  ext ⟨cx, cy⟩
  simp only [Finset.mem_image, mem_coveredPlaces, mem_landing, covers_eq_true_iff, placeOf,
    Prod.mk.injEq]
  constructor
  · rintro ⟨hcx, hcy, hx, hy, hbit⟩
    refine ⟨(cx - x % 64, cy - y % 32), ⟨lt_of_spriteBit hbit, hbit, ?_, ?_⟩, ?_, ?_⟩ <;> omega
  · rintro ⟨b, ⟨-, hbit, hcx, hcy⟩, rfl, rfl⟩
    rw [Nat.add_sub_cancel_left, Nat.add_sub_cancel_left]
    exact ⟨hcx, hcy, Nat.le_add_right _ _, Nat.le_add_right _ _, hbit⟩

/-- Each bit that falls on the grid has a pixel of its own, and the sprite covers no others. -/
theorem card_coveredPlaces (sprite : List UInt8) (x y : Nat) :
    (coveredPlaces sprite x y).card = (landing sprite x y).card := by
  rw [coveredPlaces_eq_image, Finset.card_image_of_injective _ (placeOf_injective x y)]

/-! ## Drawing -/

/-- A bit that falls on a lit pixel has been counted twice, and both times in vain. -/
theorem card_litPlaces_draw (g : Bitmap) (x y : Nat) (sprite : List UInt8) :
    (g.draw x y sprite).1.litPlaces.card + 2 * (g.turnedOff (g.draw x y sprite).1).card =
      g.litPlaces.card + (landing sprite x y).card := by
  rw [← card_coveredPlaces]
  simp only [litPlaces, turnedOff, coveredPlaces, Finset.card_filter, Finset.mul_sum,
    ← Finset.sum_add_distrib, pixel_draw]
  -- both sides are sums over the places now, and they agree place by place
  apply Finset.sum_congr rfl
  intro p _
  cases g.pixel p.1 p.2 <;> cases covers sprite x y p.1 p.2 <;> rfl

end Bitmap

/-- Drawing any sprite with any corner on any screen. Each lit bit that falls on the grid adds to
the number of lit pixels, and each pixel turned off takes away what it was and what its bit has
added. The flag is set if a pixel is turned off, or else all those bits have added to the number.
The number itself is that of the places with a lit pixel, and of the full blocks in the text. -/
theorem Screen.lit_pixels_add_up (s : Screen) (x y : Nat) (sprite : List UInt8) :
    let after := (s.draw x y sprite).1.bitmap
    let landed := (Bitmap.landing sprite x y).card
    let off := (s.bitmap.turnedOff after).card
    (after.litCount : Int) = s.bitmap.litCount + landed - 2 * off ∧
    ((s.draw x y sprite).2 = true ↔ 0 < off) ∧
    ((s.draw x y sprite).2 = true ↔ after.litCount ≠ s.bitmap.litCount + landed) ∧
    (∀ g : Bitmap, g.litCount = g.litPlaces.card ∧ g.text.toList.count '█' = g.litCount) := by
  intro after landed off
  have hcount := s.bitmap.card_litPlaces_draw x y sprite
  rw [← Bitmap.litCount_eq_card, ← Bitmap.litCount_eq_card] at hcount
  have hflag : (s.draw x y sprite).2 = true ↔ 0 < off :=
    (s.bitmap.hit_draw_iff_loses x y sprite).trans Bitmap.loses_iff_turnedOff
  have hsum : after.litCount + 2 * off = s.bitmap.litCount + landed := hcount
  refine ⟨by omega, hflag, ?_, fun g => ⟨g.litCount_eq_card, g.count_text⟩⟩
  rw [hflag]
  omega

end Chip8
