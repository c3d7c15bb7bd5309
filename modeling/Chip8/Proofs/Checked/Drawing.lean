import Chip8.Proofs.Checked.Fault
import Chip8.Proofs.Drawing

/-!
# Drawing, pixel by pixel

The picture as one array of 2048 pixels, row after row. A sprite is drawn one bit at a time: each
lit bit turns over the pixel at a place that is worked out from its row and its column.

Results:
* `drawBits_gridOf`: the bits of one sprite row turn over the pixels that they cover, and no place
  lies outside the array.
* `drawRows_gridOf`: nor does any place that the rows of a sprite lead to.
* `draw_of`: so a sprite can be drawn from every origin.
-/

namespace Chip8.Checked

/-- The pixels and the mark of a picture that is still to be shown: `Framebuffer` with its `Pixels`
as they are. -/
structure Picture where
  pixels : Vector Bool 2048
  due : Bool

/-- The array that has pixel (`x`, `y`) at place `y * 64 + x`. -/
def gridOf (lit : Nat → Nat → Bool) : Vector Bool 2048 :=
  Vector.ofFn fun i => lit (i.val % 64) (i.val / 64)

/-- Draws the given bits of a sprite row that begins in column `x` of row `y`: the inner loop of
`draw_sprite`. The flag tells whether a lit pixel was turned off, now or before. -/
def drawBits (byte : UInt8) (x y : Nat) :
    (bits : List Nat) → Vector Bool 2048 → (hit : Bool) → Outcome (Vector Bool 2048 × Bool)
  | [], pixels, hit => .ok (pixels, hit)
  | bit :: rest, pixels, hit => do
    let column ← add UInt64.size x bit
    if 64 ≤ column then .ok (pixels, hit)
    else do
      let amount ← subtract 7 bit
      let shifted ← shiftRight byte amount
      if shifted &&& 1 = 0 then drawBits byte x y rest pixels hit
      else do
        let before ← multiply UInt64.size y 64
        let place ← add UInt64.size before column
        let lit ← get pixels place
        let flipped ← set pixels place !lit
        drawBits byte x y rest flipped (hit || lit)

/-- Draws the rows of a sprite below one another, the first of them `row` rows below `y`: the outer
loop of `draw_sprite`. -/
def drawRows (x y : Nat) (row : Nat) :
    List UInt8 → Vector Bool 2048 → (hit : Bool) → Outcome (Vector Bool 2048 × Bool)
  | [], pixels, hit => .ok (pixels, hit)
  | byte :: rest, pixels, hit => do
    let line ← add UInt64.size y row
    if 32 ≤ line then .ok (pixels, hit)
    else do
      let drawn ← drawBits byte x line (List.range 8) pixels hit
      drawRows x y (row + 1) rest drawn.1 drawn.2

namespace Picture

def of (s : Screen) : Picture := { pixels := gridOf s.bitmap.pixel, due := s.due }

def clear (_ : Picture) : Picture := { pixels := Vector.replicate 2048 false, due := true }

/-- Draws a sprite (`Framebuffer::draw_sprite`); the flag tells whether a lit pixel was turned
off. -/
def draw (s : Picture) (x y : Nat) (sprite : List UInt8) : Outcome (Picture × Bool) := do
  let column ← remainder x 64
  let line ← remainder y 32
  let drawn ← drawRows column line 0 sprite s.pixels false
  .ok ({ pixels := drawn.1, due := true }, drawn.2)

end Picture

/-! ## The array of pixels -/

theorem place_lt {x y : Nat} (hx : x < 64) (hy : y < 32) : y * 64 + x < 2048 := by omega

theorem gridOf_congr {lit lit' : Nat → Nat → Bool}
    (h : ∀ x y, x < 64 → y < 32 → lit x y = lit' x y) : gridOf lit = gridOf lit' := by
  apply Vector.ext
  intro i hi
  simp only [gridOf, Vector.getElem_ofFn]
  exact h _ _ (by omega) (by omega)

theorem get_gridOf (lit : Nat → Nat → Bool) {x y : Nat} (hx : x < 64) (hy : y < 32) :
    get (gridOf lit) (y * 64 + x) = .ok (lit x y) := by
  have hcolumn : (y * 64 + x) % 64 = x := by omega
  have hrow : (y * 64 + x) / 64 = y := by omega
  rw [get_of_lt _ (place_lt hx hy)]
  simp only [gridOf, Vector.getElem_ofFn, hcolumn, hrow]

theorem set_gridOf (lit : Nat → Nat → Bool) {x y : Nat} (hx : x < 64) (hy : y < 32)
    (value : Bool) :
    set (gridOf lit) (y * 64 + x) value =
      .ok (gridOf fun cx cy => if cx = x ∧ cy = y then value else lit cx cy) := by
  rw [set_of_lt _ (place_lt hx hy)]
  refine congrArg Except.ok ?_
  apply Vector.ext
  intro i hi
  rw [Vector.getElem_set]
  simp only [gridOf, Vector.getElem_ofFn]
  by_cases h : y * 64 + x = i
  · have hplace : i % 64 = x ∧ i / 64 = y := by omega
    rw [if_pos h, if_pos hplace]
  · have hplace : ¬ (i % 64 = x ∧ i / 64 = y) := by omega
    rw [if_neg h, if_neg hplace]

theorem gridOf_dark : gridOf Bitmap.dark.pixel = Vector.replicate 2048 false := by
  apply Vector.ext
  intro i hi
  simp only [gridOf, Vector.getElem_ofFn, Bitmap.pixel_dark, Vector.getElem_replicate]

/-! ## One row of a sprite -/

/-- A shift to the right brings the bit that is `bit` places from the left to the lowest place. -/
theorem shifted_eq_zero_iff (byte : UInt8) {bit : Nat} (h : bit < 8) :
    byte >>> UInt8.ofNat (7 - bit) &&& 1 = 0 ↔ byte.toBitVec.getMsbD bit = false := by
  have hamount : (UInt8.ofNat (7 - bit)).toNat = 7 - bit := by
    rw [UInt8.toNat_ofNat']
    omega
  have hsmall : (7 - bit) % 8 = 7 - bit := Nat.mod_eq_of_lt (by omega)
  rw [← UInt8.toNat_inj, UInt8.toNat_and, UInt8.toNat_shiftRight, hamount, hsmall,
    BitVec.getMsbD_eq_getLsbD, BitVec.getLsbD, Nat.testBit]
  simp [h, Nat.and_comm]

/-- Whether one of the bits of a sprite row is lit and falls on column `cx`. -/
def covers (byte : UInt8) (x : Nat) (bits : List Nat) (cx : Nat) : Bool :=
  bits.any fun bit => decide (cx = x + bit) && byte.toBitVec.getMsbD bit

/-- Whether one of the bits of a sprite row is lit and falls on a lit pixel. -/
def meets (byte : UInt8) (x : Nat) (bits : List Nat) (lit : Nat → Bool) : Bool :=
  bits.any fun bit => decide (x + bit < 64) && byte.toBitVec.getMsbD bit && lit (x + bit)

theorem covers_cons (byte : UInt8) (x bit : Nat) (rest : List Nat) (cx : Nat) :
    covers byte x (bit :: rest) cx =
      ((decide (cx = x + bit) && byte.toBitVec.getMsbD bit) || covers byte x rest cx) := rfl

theorem meets_cons (byte : UInt8) (x bit : Nat) (rest : List Nat) (lit : Nat → Bool) :
    meets byte x (bit :: rest) lit =
      ((decide (x + bit < 64) && byte.toBitVec.getMsbD bit && lit (x + bit)) ||
        meets byte x rest lit) := rfl

/-- Bits that all fall right of a column do not cover it. -/
theorem covers_of_lt {byte : UInt8} {x cx : Nat} {bits : List Nat}
    (h : ∀ bit ∈ bits, cx < x + bit) : covers byte x bits cx = false := by
  apply List.any_eq_false.2
  intro bit hbit
  have hne : cx ≠ x + bit := Nat.ne_of_lt (h bit hbit)
  simp [hne]

/-- Bits that all fall past the right edge meet no pixel. -/
theorem meets_of_le {byte : UInt8} {x : Nat} {bits : List Nat} (h : ∀ bit ∈ bits, 64 ≤ x + bit)
    (lit : Nat → Bool) : meets byte x bits lit = false := by
  apply List.any_eq_false.2
  intro bit hbit
  simp [Nat.not_lt.2 (h bit hbit)]

/-- What bits meet hangs only on the pixels in their columns. -/
theorem meets_congr {byte : UInt8} {x : Nat} {bits : List Nat} {lit lit' : Nat → Bool}
    (h : ∀ bit ∈ bits, lit (x + bit) = lit' (x + bit)) :
    meets byte x bits lit = meets byte x bits lit' := by
  rw [Bool.eq_iff_iff]
  simp only [meets, List.any_eq_true]
  refine exists_congr fun bit => and_congr_right fun hbit => ?_
  rw [h bit hbit]

/-- Turning over the pixel of a lit bit and then those of the bits right of it is turning over all
of them. -/
theorem flip_cons {byte : UInt8} {bit : Nat} (hlit : byte.toBitVec.getMsbD bit = true)
    {rest : List Nat} (hright : ∀ b ∈ rest, bit < b) (x y : Nat) (lit : Nat → Nat → Bool)
    (cx cy : Nat) :
    ((if cx = x + bit ∧ cy = y then !lit (x + bit) y else lit cx cy) ^^
        (decide (cy = y) && covers byte x rest cx)) =
      (lit cx cy ^^ (decide (cy = y) && covers byte x (bit :: rest) cx)) := by
  by_cases hrow : cy = y
  · subst hrow
    by_cases hcolumn : cx = x + bit
    · subst hcolumn
      have hnone : covers byte x rest (x + bit) = false :=
        covers_of_lt fun b hb => Nat.add_lt_add_left (hright b hb) x
      simp [covers_cons, hlit, hnone]
    · simp [covers_cons, hcolumn]
  · simp [hrow]

/-- The bits are taken from left to right, so none of them falls on a pixel that an earlier one has
turned over. -/
theorem drawBits_gridOf (byte : UInt8) {x y : Nat} (hx : x < 64) (hy : y < 32) {bits : List Nat}
    (hsorted : bits.Pairwise (· < ·)) (hsmall : ∀ bit ∈ bits, bit < 8) (lit : Nat → Nat → Bool)
    (hit : Bool) :
    drawBits byte x y bits (gridOf lit) hit =
      .ok (gridOf fun cx cy => lit cx cy ^^ (decide (cy = y) && covers byte x bits cx),
        hit || meets byte x bits fun cx => lit cx y) := by
  induction bits generalizing lit hit with
  | nil => simp [drawBits, covers, meets]
  | cons bit rest ih =>
    obtain ⟨hright, hrest⟩ := List.pairwise_cons.1 hsorted
    have hbit : bit < 8 := hsmall bit List.mem_cons_self
    have hlater : ∀ b ∈ rest, b < 8 := fun b hb => hsmall b (List.mem_cons_of_mem _ hb)
    have hadd : add UInt64.size x bit = .ok (x + bit) := add_of_small (by omega)
    rw [drawBits, hadd, ok_bind]
    by_cases hedge : 64 ≤ x + bit
    · have hall : ∀ b ∈ bit :: rest, 64 ≤ x + b := by
        intro b hb
        rcases List.mem_cons.1 hb with rfl | hb
        · exact hedge
        · have := hright b hb
          omega
      have hpixels : gridOf (fun cx cy => lit cx cy ^^ (decide (cy = y) &&
          covers byte x (bit :: rest) cx)) = gridOf lit := by
        apply gridOf_congr
        intro cx cy hcx _
        rw [covers_of_lt fun b hb => Nat.lt_of_lt_of_le hcx (hall b hb), Bool.and_false,
          Bool.xor_false]
      rw [if_pos hedge, hpixels, meets_of_le hall, Bool.or_false]
    · have hamount : subtract 7 bit = .ok (7 - bit) := subtract_of_le (by omega)
      have hshift : shiftRight byte (7 - bit) = .ok (byte >>> UInt8.ofNat (7 - bit)) :=
        shiftRight_of_lt byte (by omega)
      have hinside : x + bit < 64 := Nat.not_le.1 hedge
      rw [if_neg hedge, hamount, ok_bind, hshift, ok_bind]
      by_cases hdark : byte.toBitVec.getMsbD bit = false
      · rw [if_pos ((shifted_eq_zero_iff byte hbit).2 hdark), ih hrest hlater]
        simp only [covers_cons, meets_cons, hdark, Bool.and_false, Bool.false_and, Bool.false_or]
      · have hlit : byte.toBitVec.getMsbD bit = true := Bool.of_not_eq_false hdark
        have hone : ¬ byte >>> UInt8.ofNat (7 - bit) &&& 1 = 0 :=
          fun h => hdark ((shifted_eq_zero_iff byte hbit).1 h)
        have hbefore : multiply UInt64.size y 64 = .ok (y * 64) := multiply_of_small (by omega)
        have hplace : add UInt64.size (y * 64) (x + bit) = .ok (y * 64 + (x + bit)) :=
          add_of_small (by omega)
        have hget := get_gridOf lit hinside hy
        have hset := set_gridOf lit hinside hy !lit (x + bit) y
        have hothers : meets byte x rest (fun cx =>
            if cx = x + bit ∧ y = y then !lit (x + bit) y else lit cx y) =
            meets byte x rest fun cx => lit cx y := by
          apply meets_congr
          intro b hb
          have hne : ¬ (x + b = x + bit ∧ y = y) := by
            have := hright b hb
            omega
          exact if_neg hne
        rw [if_neg hone, hbefore, ok_bind, hplace, ok_bind, hget, ok_bind, hset, ok_bind,
          ih hrest hlater, hothers, meets_cons, hlit, decide_eq_true hinside]
        simp only [flip_cons hlit hright, Bool.true_and, Bool.or_assoc]

/-! ## The rows of a sprite -/

theorem covers_range (byte : UInt8) (x : Nat) {cx : Nat} (h : cx < 64) :
    covers byte x (List.range 8) cx = (Bitmap.rowMask byte x).getMsbD cx := by
  rw [Bitmap.getMsbD_rowMask, Bool.eq_iff_iff]
  simp only [covers, List.any_eq_true, List.mem_range, Bool.and_eq_true, decide_eq_true_eq]
  constructor
  · rintro ⟨bit, -, rfl, hlit⟩
    rw [Nat.add_sub_cancel_left]
    exact ⟨⟨h, Nat.le_add_right x bit⟩, hlit⟩
  · rintro ⟨⟨-, hle⟩, hlit⟩
    have hbit : cx - x < 8 := BitVec.lt_of_getMsbD hlit
    exact ⟨cx - x, hbit, by omega, hlit⟩

/-- A sprite row turns a lit pixel off where one of its lit bits falls on one. -/
theorem drawRow_hit (g : Bitmap) (x y : Nat) (byte : UInt8) :
    (g.drawRow x y byte).2 = meets byte x (List.range 8) fun cx => g.pixel cx y := by
  rw [Bool.eq_iff_iff, Bitmap.hit_drawRow_iff]
  simp only [Bitmap.getMsbD_rowMask, meets, List.any_eq_true, List.mem_range, Bool.and_eq_true,
    decide_eq_true_eq]
  constructor
  · rintro ⟨cx, hpixel, ⟨hcx, hle⟩, hlit⟩
    have hbit : cx - x < 8 := BitVec.lt_of_getMsbD hlit
    have hplace : x + (cx - x) = cx := by omega
    exact ⟨cx - x, hbit, by rw [hplace]; exact ⟨⟨hcx, hlit⟩, hpixel⟩⟩
  · rintro ⟨bit, -, ⟨hinside, hlit⟩, hpixel⟩
    refine ⟨x + bit, hpixel, ⟨hinside, Nat.le_add_right x bit⟩, ?_⟩
    rwa [Nat.add_sub_cancel_left]

/-- All eight bits of a sprite row. -/
theorem drawBits_range (g : Bitmap) {x y : Nat} (hx : x < 64) (hy : y < 32) (byte : UInt8)
    (hit : Bool) :
    drawBits byte x y (List.range 8) (gridOf g.pixel) hit =
      .ok (gridOf (g.drawRow x y byte).1.pixel, hit || (g.drawRow x y byte).2) := by
  have hpixels : gridOf (fun cx cy => g.pixel cx cy ^^
      (decide (cy = y) && covers byte x (List.range 8) cx)) =
      gridOf (g.drawRow x y byte).1.pixel := by
    apply gridOf_congr
    intro cx cy hcx hcy
    rw [Bitmap.pixel_drawRow, covers_range byte x hcx, decide_eq_true hcy, Bool.and_true]
  rw [drawBits_gridOf byte hx hy List.pairwise_lt_range (fun _ => List.mem_range.1), hpixels,
    drawRow_hit]

theorem drawRows_of_le (g : Bitmap) (x : Nat) {y : Nat} (h : 32 ≤ y) (sprite : List UInt8) :
    g.drawRows x y sprite = (g, false) := by
  induction sprite generalizing y with
  | nil => rfl
  | cons byte rest ih =>
    have hfirst : g.drawRow x y byte = (g, false) := dif_neg (Nat.not_lt.2 h)
    simp only [Bitmap.drawRows, hfirst, ih (Nat.le_succ_of_le h), Bool.or_false]

/-- The rows are taken from the top, and the first one below the picture ends the drawing. -/
theorem drawRows_gridOf (g : Bitmap) {x y row : Nat} (hx : x < 64) (hrow : y + row ≤ 32)
    (sprite : List UInt8) (hit : Bool) :
    drawRows x y row sprite (gridOf g.pixel) hit =
      .ok (gridOf (g.drawRows x (y + row) sprite).1.pixel,
        hit || (g.drawRows x (y + row) sprite).2) := by
  induction sprite generalizing g row hit with
  | nil => simp only [drawRows, Bitmap.drawRows, Bool.or_false]
  | cons byte rest ih =>
    have hadd : add UInt64.size y row = .ok (y + row) := add_of_small (by omega)
    rw [drawRows, hadd, ok_bind]
    by_cases hedge : 32 ≤ y + row
    · rw [if_pos hedge, drawRows_of_le g x hedge, Bool.or_false]
    · have hline : y + row < 32 := Nat.not_le.1 hedge
      have hnext : y + (row + 1) ≤ 32 := hline
      rw [if_neg hedge, drawBits_range g hx hline, ok_bind, ih _ hnext]
      simp only [Bitmap.drawRows, Bool.or_assoc, Nat.add_assoc]

namespace Picture

theorem clear_of (s : Screen) : (of s).clear = of s.clear := by
  simp only [clear, of, Screen.clear, gridOf_dark]

/-- Wherever the corner of a sprite is, the places of its pixels lie inside the array. -/
theorem draw_of (s : Screen) (x y : Nat) (sprite : List UInt8) :
    (of s).draw x y sprite = .ok (of (s.draw x y sprite).1, (s.draw x y sprite).2) := by
  have hcolumn : remainder x 64 = .ok (x % 64) := remainder_of_ne (by decide)
  have hline : remainder y 32 = .ok (y % 32) := remainder_of_ne (by decide)
  have hx : x % 64 < 64 := Nat.mod_lt x (by decide)
  have hy : y % 32 + 0 ≤ 32 := Nat.le_of_lt (Nat.mod_lt y (by decide))
  have hrows := drawRows_gridOf s.bitmap hx hy sprite false
  simp only [draw, of, hcolumn, hline, hrows, ok_bind, Bool.false_or, Nat.add_zero]
  rfl

end Picture

end Chip8.Checked
