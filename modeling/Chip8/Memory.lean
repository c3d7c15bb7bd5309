import Chip8.Glyph

/-!
# Memory

4096 bytes, addressed by 64-bit words. Every access is total: a read past the end gives 0 and a
write past the end is dropped.

Results:
* `read_eq_byteAt`: a read is a look-up in the view `byteAt`.
* `byteAt_write`, `byteAt_load`: what a write and a program load do to the view.
* `toNat_readWord`: a word is 256 times its first byte plus its second one.
* `getElem?_sprite`: the bytes of a sprite are those of the view, cut at the end of memory.
-/

namespace Chip8

/-- Memory addresses are 64-bit words; sums of addresses wrap. -/
abbrev Address := UInt64

/-- The bytes of the machine: `Memory`. -/
structure Memory where
  bytes : Vector UInt8 4096
deriving DecidableEq

namespace Memory

/-- The number of bytes (`MEM_SIZE`). -/
def size : Nat := 4096

/-- Where programs are loaded and where execution starts (`PC_START_ADDR`). -/
def programStart : Nat := 0x200

/-- The view of memory: byte `n`, and 0 for every `n` past the end. -/
def byteAt (m : Memory) (n : Nat) : UInt8 := m.bytes[n]?.getD 0

/-- Model of `Memory::read`. -/
def read (m : Memory) (a : Address) : UInt8 :=
  if h : a.toNat < 4096 then m.bytes[a.toNat] else 0

/-- Model of `Memory::write`. -/
def write (m : Memory) (a : Address) (value : UInt8) : Memory :=
  if h : a.toNat < 4096 then { bytes := m.bytes.set a.toNat value } else m

/-- The two bytes from `a` on as one word, the byte at `a` being the high one. The second address is
a `wrapping_add`, as in `Memory::read_word`. -/
def readWord (m : Memory) (a : Address) : UInt16 :=
  (m.read a).toUInt16 <<< 8 ||| (m.read (a + 1)).toUInt16

/-- Up to `count` bytes from `start` on, fewer where memory ends before (`Memory::read_sprite`). -/
def sprite (m : Memory) (start : Address) (count : Nat) : List UInt8 :=
  (List.range (min count (4096 - start.toNat))).map fun k => m.byteAt (start.toNat + k)

/-- How many bytes of an image of `length` bytes fit between the program start and the end of
memory, which is what `Memory::load_rom` returns. -/
def capacityFor (length : Nat) : Nat := min length (size - programStart)

/-- Writes an image from byte `start` on; bytes past the end of memory are lost. -/
def overlay (m : Memory) (start : Nat) : List UInt8 → Memory
  | [] => m
  | b :: rest =>
    if h : start < 4096 then overlay { bytes := m.bytes.set start b } (start + 1) rest else m

/-- Puts a program image at the program start (`Memory::load_rom`). Bytes outside the image keep
their values. -/
def load (m : Memory) (image : List UInt8) : Memory := m.overlay programStart image

/-- Zeros, except for the table of digits below the program start (`Memory::new`). -/
def initial : Memory := overlay { bytes := Vector.replicate 4096 0 } Glyph.base Glyph.table

/-! ## The view -/

theorem byteAt_of_lt (m : Memory) {n : Nat} (h : n < 4096) : m.byteAt n = m.bytes[n] := by
  simp [byteAt, h]

theorem byteAt_of_le (m : Memory) {n : Nat} (h : 4096 ≤ n) : m.byteAt n = 0 := by
  simp [byteAt, h]

/-- Two memories with the same view are equal. -/
theorem ext_byteAt {m m' : Memory} (h : ∀ n, m.byteAt n = m'.byteAt n) : m = m' := by
  obtain ⟨bytes⟩ := m
  obtain ⟨bytes'⟩ := m'
  congr 1
  refine Vector.ext fun i hi => ?_
  have := h i
  rw [byteAt_of_lt _ hi, byteAt_of_lt _ hi] at this
  exact this

theorem read_eq_byteAt (m : Memory) (a : Address) : m.read a = m.byteAt a.toNat := by
  unfold read
  split
  · next h => rw [byteAt_of_lt m h]
  · next h => rw [byteAt_of_le m (by omega)]

theorem byteAt_set (m : Memory) {i : Nat} (hi : i < 4096) (value : UInt8) (n : Nat) :
    byteAt { bytes := m.bytes.set i value } n = if n = i then value else m.byteAt n := by
  simp only [byteAt, Vector.getElem?_set]
  split
  · next h => subst h; simp
  · next h => rw [if_neg (fun hn => h hn.symm)]

/-- A write changes the byte at its address, if memory has one, and no other. -/
theorem byteAt_write (m : Memory) (a : Address) (value : UInt8) (n : Nat) :
    (m.write a value).byteAt n = if n = a.toNat ∧ n < 4096 then value else m.byteAt n := by
  unfold write
  split
  · next h =>
    rw [byteAt_set m h]
    by_cases hn : n = a.toNat
    · simp [hn, h]
    · simp [hn]
  · next h => rw [if_neg (by omega)]

theorem byteAt_overlay (m : Memory) (start : Nat) (image : List UInt8) (n : Nat) :
    (m.overlay start image).byteAt n =
      if start ≤ n ∧ n < start + image.length ∧ n < 4096 then image.getD (n - start) 0
      else m.byteAt n := by
  induction image generalizing m start with
  | nil => rw [if_neg (by simp; omega)]; rfl
  | cons b rest ih =>
    unfold overlay
    split
    · next h =>
      rw [ih, byteAt_set m h]
      by_cases hn : n = start
      · subst hn
        rw [if_neg (by omega), if_pos rfl, if_pos (by simp; omega)]
        simp
      · by_cases hr : start + 1 ≤ n ∧ n < start + 1 + rest.length ∧ n < 4096
        · rw [if_pos hr, if_pos (by simp; omega)]
          obtain ⟨k, rfl⟩ := Nat.exists_eq_add_of_le hr.1
          rw [show start + 1 + k - start = k + 1 by omega, Nat.add_sub_cancel_left]
          simp
        · rw [if_neg hr, if_neg hn, if_neg (by simp; omega)]
    · next h => rw [if_neg (by omega)]

/-- After a load byte `i` of the image stands at `0x200 + i`, and nothing else has changed. -/
theorem byteAt_load (m : Memory) (image : List UInt8) (n : Nat) :
    (m.load image).byteAt n =
      if programStart ≤ n ∧ n < programStart + capacityFor image.length
      then image.getD (n - programStart) 0 else m.byteAt n := by
  rw [load, byteAt_overlay]
  congr 1
  simp only [programStart, capacityFor, size, eq_iff_iff]
  omega

/-- Memory before any load: the digits, and zero elsewhere. -/
theorem byteAt_initial (n : Nat) :
    initial.byteAt n = if 0x1B0 ≤ n ∧ n < 0x200 then Glyph.table.getD (n - 0x1B0) 0 else 0 := by
  rw [initial, byteAt_overlay, Glyph.length_table]
  have : byteAt { bytes := Vector.replicate 4096 0 } n = 0 := by
    by_cases h : n < 4096
    · rw [byteAt_of_lt _ h]; simp
    · exact byteAt_of_le _ (by omega)
  rw [this]
  simp only [Glyph.base]
  congr 1
  simp only [eq_iff_iff]
  omega

/-! ## Words -/

/-- A word in numbers. -/
theorem toNat_readWord (m : Memory) (a : Address) :
    (m.readWord a).toNat = 256 * (m.read a).toNat + (m.read (a + 1)).toNat := by
  have hhigh := (m.read a).toNat_lt
  have hlow := (m.read (a + 1)).toNat_lt
  have hor := Nat.shiftLeft_add_eq_or_of_lt (i := 8) hlow (m.read a).toNat
  have h8 : (8 : UInt16).toNat % 16 = 8 := rfl
  simp only [readWord, UInt16.toNat_or, UInt16.toNat_shiftLeft, UInt8.toNat_toUInt16]
  rw [h8, Nat.shiftLeft_eq] at *
  rw [Nat.mod_eq_of_lt (by omega), ← hor]
  omega

/-! ## Sprites -/

theorem length_sprite (m : Memory) (start : Address) (count : Nat) :
    (m.sprite start count).length = min count (4096 - start.toNat) := by
  simp [sprite]

theorem getElem?_sprite (m : Memory) (start : Address) (count k : Nat) :
    (m.sprite start count)[k]? =
      if k < min count (4096 - start.toNat) then some (m.byteAt (start.toNat + k)) else none := by
  simp only [sprite, List.getElem?_map]
  split <;> simp_all

end Memory

end Chip8
