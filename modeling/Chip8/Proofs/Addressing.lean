import Chip8.Proofs.Checked.Machine

/-!
# Addresses near the end

Memory has far fewer bytes than there are addresses, so a sum of addresses could leave memory a long
way before it leaves its 64 bits. It does leave them at the very end: the second byte of a word at
the last address is the first byte of memory, and so are the bytes that an offset reaches past the
last address from the index register on. Everywhere else words and indexed accesses are the bytes at
the sums in the natural numbers; and a sprite is cut at the end of memory wherever it begins.

Results:
* `toNat_readWord_mod`, `toNat_indexed`: the places of a word and of an indexed access.
* `readWord_eq_iff`, `readIndexed_eq_iff`, `writeIndexed_eq_iff`: where these are the sums in the
  natural numbers, up to what memory happens to hold.
* `indexed_overflow_iff`: where a checked sum meets a fault.
* `sprite_eq_take`: the bytes of a sprite.
* `accesses_by_sums`: all of this.
* `accesses_wrap_at_last_address`: bytes of memory that are reached from its far end.
-/

namespace Chip8

/-- The byte at `n` as a number. -/
def Memory.valueAt (m : Memory) (n : Nat) : Nat := (m.byteAt n).toNat

namespace Memory

theorem valueAt_of_le (m : Memory) {n : Nat} (h : 4096 ≤ n) : m.valueAt n = 0 := by
  rw [valueAt, byteAt_of_le m h]
  rfl

/-! ## Words -/

/-- The second byte of a word is at the next address, and that of the last one at the first. -/
theorem toNat_readWord_mod (m : Memory) (a : Address) :
    (m.readWord a).toNat =
      256 * m.valueAt a.toNat + m.valueAt ((a.toNat + 1) % UInt64.size) := by
  rw [toNat_readWord, read_eq_byteAt, read_eq_byteAt, UInt64.toNat_add]
  rfl

/-- A sum that has left its 64 bits by less than the size of memory comes back into memory. -/
theorem valueAt_mod_iff (m : Memory) (n : Nat) (h : n < 2 * UInt64.size) :
    m.valueAt (n % UInt64.size) = m.valueAt n ↔
      n < UInt64.size ∨ m.valueAt (n - UInt64.size) = 0 := by
  have hsize : 4096 ≤ UInt64.size := by decide
  by_cases hn : n < UInt64.size
  · rw [Nat.mod_eq_of_lt hn]
    exact iff_of_true rfl (.inl hn)
  · have hmod : n % UInt64.size = n - UInt64.size := by
      rw [Nat.mod_eq_sub_mod (Nat.not_lt.1 hn), Nat.mod_eq_of_lt (by omega)]
    rw [hmod, m.valueAt_of_le (show 4096 ≤ n by omega), or_iff_right hn]

theorem readWord_eq_iff (m : Memory) (a : Address) :
    (m.readWord a).toNat = 256 * m.valueAt a.toNat + m.valueAt (a.toNat + 1) ↔
      a.toNat + 1 < UInt64.size ∨ m.valueAt (a.toNat + 1 - UInt64.size) = 0 := by
  have ha : a.toNat < UInt64.size := a.toNat_lt
  rw [toNat_readWord_mod, Nat.add_left_cancel_iff, valueAt_mod_iff m _ (by omega)]

theorem readWord_of_le (m : Memory) {a : Address} (h : 4096 ≤ a.toNat)
    (hlast : a.toNat + 1 < UInt64.size) : m.readWord a = 0 := by
  apply UInt16.toNat_inj.1
  rw [(m.readWord_eq_iff a).2 (.inl hlast), m.valueAt_of_le h, m.valueAt_of_le (by omega)]
  rfl

/-! ## Sprites -/

/-- The `count` bytes from an address on, those past the end of memory being zero. -/
def bytesFrom (m : Memory) (start : Address) (count : Nat) : List UInt8 :=
  (List.range count).map fun k => m.byteAt (start.toNat + k)

theorem sprite_eq_take (m : Memory) (start : Address) (count : Nat) :
    m.sprite start count = (m.bytesFrom start count).take (4096 - start.toNat) := by
  rw [sprite, bytesFrom, ← List.map_take, List.take_range, Nat.min_comm]

/-- A sprite is as long as its bytes go on in memory. -/
theorem sprite_longest (m : Memory) (start : Address) (count : Nat) :
    m.sprite start count <+: m.bytesFrom start count ∧
    (∀ k < (m.sprite start count).length, start.toNat + k < 4096) ∧
    ∀ piece, piece <+: m.bytesFrom start count →
      (∀ k < piece.length, start.toNat + k < 4096) → piece <+: m.sprite start count := by
  have hlength := m.length_sprite start count
  refine ⟨?_, fun k hk => by omega, fun piece hpiece hinside => ?_⟩
  · rw [sprite_eq_take]
    exact List.take_prefix _ _
  · have hroom : piece.length ≤ 4096 - start.toNat := by
      by_contra hlong
      have hlast := hinside (4096 - start.toNat) (by omega)
      omega
    rw [sprite_eq_take]
    exact List.prefix_take_iff.2 ⟨hpiece, hroom⟩

end Memory

namespace Machine

/-! ## Indexed accesses -/

theorem toNat_indexed (m : Machine) (offset : Address) :
    (m.indexed offset).toNat = (m.index.toNat + offset.toNat) % UInt64.size := by
  rw [indexed, UInt64.toNat_add, UInt16.toNat_toUInt64]

theorem toNat_readIndexed (m : Machine) (offset : Address) :
    (m.readIndexed offset).toNat =
      m.memory.valueAt ((m.index.toNat + offset.toNat) % UInt64.size) := by
  rw [readIndexed, Memory.read_eq_byteAt, toNat_indexed]
  rfl

theorem index_add_offset_lt (m : Machine) (offset : Address) :
    m.index.toNat + offset.toNat < 2 * UInt64.size := by
  have hindex : m.index.toNat < 65536 := m.index.toNat_lt
  have hoffset : offset.toNat < UInt64.size := offset.toNat_lt
  have hsize : 65536 ≤ UInt64.size := by decide
  omega

theorem readIndexed_eq_iff (m : Machine) (offset : Address) :
    (m.readIndexed offset).toNat = m.memory.valueAt (m.index.toNat + offset.toNat) ↔
      m.index.toNat + offset.toNat < UInt64.size ∨
        m.memory.valueAt (m.index.toNat + offset.toNat - UInt64.size) = 0 := by
  rw [toNat_readIndexed, Memory.valueAt_mod_iff _ _ (m.index_add_offset_lt offset)]

/-- The byte that an indexed write changes, if memory has one there. -/
theorem byteAt_writeIndexed (m : Machine) (offset : Address) (value : UInt8) (n : Nat) :
    (m.writeIndexed offset value).memory.byteAt n =
      if n = (m.index.toNat + offset.toNat) % UInt64.size ∧ n < 4096 then value
      else m.memory.byteAt n := by
  rw [writeIndexed, Memory.byteAt_write, toNat_indexed]

theorem writeIndexed_eq_iff (m : Machine) (offset : Address) (value : UInt8) :
    (∀ n, (m.writeIndexed offset value).memory.byteAt n =
      if n = m.index.toNat + offset.toNat ∧ n < 4096 then value else m.memory.byteAt n) ↔
      m.index.toNat + offset.toNat < UInt64.size ∨
        4096 ≤ m.index.toNat + offset.toNat - UInt64.size ∨
        m.memory.byteAt (m.index.toNat + offset.toNat - UInt64.size) = value := by
  have hbound := m.index_add_offset_lt offset
  have hsize : 4096 ≤ UInt64.size := by decide
  simp only [byteAt_writeIndexed]
  generalize m.index.toNat + offset.toNat = place at *
  by_cases hplace : place < UInt64.size
  · rw [Nat.mod_eq_of_lt hplace]
    exact iff_of_true (fun _ => rfl) (.inl hplace)
  · have hmod : place % UInt64.size = place - UInt64.size := by
      rw [Nat.mod_eq_sub_mod (Nat.not_lt.1 hplace), Nat.mod_eq_of_lt (by omega)]
    have hpast (n : Nat) : ¬ (n = place ∧ n < 4096) := by omega
    rw [hmod, or_iff_right hplace]
    constructor
    · -- the byte that the write has hit keeps its value only if that is the one written
      intro h
      by_cases hroom : place - UInt64.size < 4096
      · right
        have hhit := h (place - UInt64.size)
        rw [if_pos ⟨rfl, hroom⟩, if_neg (hpast _)] at hhit
        exact hhit.symm
      · exact .inl (Nat.not_lt.1 hroom)
    · intro h n
      rw [if_neg (hpast n)]
      split
      · next hhit =>
        have hroom : ¬ 4096 ≤ place - UInt64.size := by omega
        rw [hhit.1]
        exact (h.resolve_left hroom).symm
      · rfl

/-- A sum that is checked has no result where the words wrap. -/
theorem indexed_overflow_iff (m : Machine) (offset : Address) :
    (Checked.Machine.of m).indexed offset.toNat = .error .overflow ↔
      UInt64.size ≤ m.index.toNat + offset.toNat := by
  have hindex : (Checked.Machine.of m).index = m.index := rfl
  unfold Checked.Machine.indexed Checked.add
  rw [hindex]
  split
  · next h => exact iff_of_false (fun hfault => nomatch hfault) (Nat.not_le.2 h)
  · next h => exact iff_of_true rfl (Nat.not_lt.1 h)

/-! ## All accesses -/

/-- Where the accesses to memory go by sums in the natural numbers, memory being zero past its end.
A word does at every address but the last one, and an indexed access unless index register and
offset come to more than an address; beyond that the sums wrap, or fault where they are checked, and
the bytes reached are the first ones of memory. A sprite is the longest piece of memory that it can
be, wherever it begins. -/
theorem accesses_by_sums (m : Machine) (a offset : Address) (value : UInt8) (count : Nat) :
    let M := m.memory.valueAt
    let place := m.index.toNat + offset.toNat
    ((m.memory.readWord a).toNat = 256 * M a.toNat + M (a.toNat + 1) ↔
      a.toNat + 1 < UInt64.size ∨ M 0 = 0) ∧
    (4096 ≤ a.toNat → a.toNat + 1 < UInt64.size → m.memory.readWord a = 0) ∧
    ((m.readIndexed offset).toNat = M place ↔
      place < UInt64.size ∨ M (place - UInt64.size) = 0) ∧
    ((∀ n, (m.writeIndexed offset value).memory.byteAt n =
        if n = place ∧ n < 4096 then value else m.memory.byteAt n) ↔
      place < UInt64.size ∨ 4096 ≤ place - UInt64.size ∨
        m.memory.byteAt (place - UInt64.size) = value) ∧
    ((Checked.Machine.of m).indexed offset.toNat = .error .overflow ↔ UInt64.size ≤ place) ∧
    m.memory.sprite a count <+: m.memory.bytesFrom a count ∧
    (∀ k < (m.memory.sprite a count).length, a.toNat + k < 4096) ∧
    ∀ piece, piece <+: m.memory.bytesFrom a count →
      (∀ k < piece.length, a.toNat + k < 4096) → piece <+: m.memory.sprite a count := by
  intro M place
  have ha : a.toNat < UInt64.size := a.toNat_lt
  have hfirst : a.toNat + 1 - UInt64.size = 0 := by omega
  have hword := m.memory.readWord_eq_iff a
  rw [hfirst] at hword
  exact ⟨hword, m.memory.readWord_of_le, m.readIndexed_eq_iff offset,
    m.writeIndexed_eq_iff offset value, m.indexed_overflow_iff offset,
    m.memory.sprite_longest a count⟩

/-- A memory that holds 7 everywhere: the word at the last address but one, and the two bytes that a
sprite of three rows at the end of memory has. -/
theorem accesses_by_sums_last_but_one :
    let m : Machine :=
      { powerOn Setup.standard with memory := { bytes := Vector.replicate 4096 7 } }
    let lastButOne : Address := 0xFFFFFFFFFFFFFFFE
    m.memory.readWord lastButOne = 0 ∧ [7, 7] <+: m.memory.sprite 0xFFE 3 := by
  intro m lastButOne
  have hword := accesses_by_sums m lastButOne 0 0 0
  have hsprite := accesses_by_sums m 0xFFE 0 0 3
  have hinside : ∀ k < 2, 0xFFE + k < 4096 := by decide
  exact ⟨hword.2.1 (by decide) (by decide),
    hsprite.2.2.2.2.2.2.2 [7, 7] (by decide +kernel) hinside⟩

/-- The word at the last address ends in the first byte of memory, and from an index register that
is 1 that byte is read and written at the largest offset; the sums in the natural numbers are past
the end of memory. -/
theorem accesses_wrap_at_last_address :
    let last : Address := 0xFFFFFFFFFFFFFFFF
    let m : Machine :=
      { powerOn Setup.standard with
        memory := Memory.write { bytes := Vector.replicate 4096 7 } 0 0xC3, index := 1 }
    let M := m.memory.valueAt
    ((m.memory.readWord last).toNat = 0xC3 ∧ 256 * M last.toNat + M (last.toNat + 1) = 0) ∧
    ((m.readIndexed last).toNat = 0xC3 ∧ M (m.index.toNat + last.toNat) = 0) ∧
    ((m.writeIndexed last 7).memory.byteAt 0 = 7 ∧ 4096 ≤ m.index.toNat + last.toNat) ∧
    (Checked.Machine.of m).indexed last.toNat = .error .overflow := by
  refine ⟨?_, ?_, ?_, ?_⟩ <;> decide +kernel

end Machine

end Chip8
