import Chip8.Proofs.Blocks
import Chip8.Proofs.Patterns

/-!
# Registers stored and fetched

A store puts V0 to VX into memory from the index register on, and a fetch takes them out of there
again. Between them nothing is lost but what had no place: a register whose byte would lie past the
end of memory comes back as zero. The other way round nothing is lost at all, since a fetch makes up
no byte that a store could then put down. Each moves the index register past its bytes, in sixteen
bits, while the bytes themselves do not wrap.

Results:
* `byteAt_store_of_le`, `byteAt_store_of_ne`: memory after a store.
* `readRegister_fetch_of_stored`: the registers after a fetch from where they have been stored.
* `memory_store_of_fetched`: memory after a store to where the registers come from.
* `stored_registers_return`: all of this for the words FX55 and FX65.
-/

namespace Chip8.Machine

open Instruction (fieldX)

/-- The machine with another value in the index register. -/
def pointing (m : Machine) (index : UInt16) : Machine := { m with index := index }

@[simp] theorem memory_pointing (m : Machine) (index : UInt16) :
    (m.pointing index).memory = m.memory := rfl

@[simp] theorem index_pointing (m : Machine) (index : UInt16) :
    (m.pointing index).index = index := rfl

@[simp] theorem readRegister_pointing (m : Machine) (index : UInt16) (r : Register) :
    (m.pointing index).readRegister r = m.readRegister r := rfl

/-! ## Stores -/

theorem readRegister_store (m : Machine) (x r : Register) :
    (m.store x).readRegister r = m.readRegister r := by
  have hkept : (m.store x).registers = m.registers := rfl
  rw [readRegister, readRegister, hkept]

/-- Each register has its own byte, as far as there is memory. -/
theorem byteAt_store_of_le (m : Machine) {x r : Register} (hr : r ≤ x)
    (hroom : m.index.toNat + r.val < 4096) :
    (m.store x).memory.byteAt (m.index.toNat + r.val) = m.readRegister r := by
  have hle : r.val ≤ x.val := hr
  rw [byteAt_store, if_pos (by omega), Nat.add_sub_cancel_left, List.getD_eq_getElem?_getD,
    List.getElem?_map, Register.getElem?_upTo, if_pos hr]
  rfl

/-- There are no other bytes than those of the registers. -/
theorem byteAt_store_of_ne (m : Machine) {x : Register} {a : Nat}
    (h : ∀ r ≤ x, a ≠ m.index.toNat + r.val) :
    (m.store x).memory.byteAt a = m.memory.byteAt a := by
  rw [byteAt_store, if_neg]
  rintro ⟨hfrom, hto, -⟩
  have hx := x.isLt
  let r : Register := ⟨a - m.index.toNat, by omega⟩
  have hr : r ≤ x := by
    show a - m.index.toNat ≤ x.val
    omega
  exact h r hr (Nat.add_sub_of_le hfrom).symm

/-! ## Stores and fetches -/

/-- Whatever has been done since: if memory is as a store has left it and the index register is
where it was, a fetch gets the registers back that had room. -/
theorem readRegister_fetch_of_stored (m n : Machine) {x : Register}
    (hmemory : n.memory = (m.store x).memory) (hindex : n.index = m.index) (r : Register) :
    (n.fetch x).readRegister r =
      if r ≤ x then if m.index.toNat + r.val < 4096 then m.readRegister r else 0
      else n.readRegister r := by
  rw [readRegister_fetch, hmemory, hindex]
  split
  · next hr =>
    split
    · next hroom => exact m.byteAt_store_of_le hr hroom
    · next hroom => exact Memory.byteAt_of_le _ (Nat.not_lt.1 hroom)
  · rfl

/-- A store to where a fetch has taken the registers from puts down what is there. -/
theorem memory_store_of_fetched (m n : Machine) {x : Register} (hmemory : n.memory = m.memory)
    (hindex : n.index = m.index)
    (hregisters : ∀ r ≤ x, n.readRegister r = (m.fetch x).readRegister r) :
    (n.store x).memory = m.memory := by
  apply Memory.ext_byteAt
  intro a
  by_cases hroom : a < 4096
  · by_cases hplace : ∃ r ≤ x, a = n.index.toNat + r.val
    · obtain ⟨r, hr, rfl⟩ := hplace
      rw [n.byteAt_store_of_le hr hroom, hregisters r hr, readRegister_fetch, if_pos hr, hindex]
    · have hother : ∀ r ≤ x, a ≠ n.index.toNat + r.val :=
        fun r hr ha => hplace ⟨r, hr, ha⟩
      rw [n.byteAt_store_of_ne hother, hmemory]
  · rw [Memory.byteAt_of_le _ (Nat.not_lt.1 hroom), Memory.byteAt_of_le _ (Nat.not_lt.1 hroom)]

/-! ## The index register -/

theorem toNat_index_advanceIndex (m : Machine) (count : Nat) :
    (m.advanceIndex count).index.toNat = (m.index.toNat + count) % 65536 := by
  rw [advanceIndex, UInt16.toNat_add, UInt16.toNat_ofNat', Nat.add_mod_mod]

theorem toNat_index_store (m : Machine) (x : Register) :
    (m.store x).index.toNat = (m.index.toNat + (x.val + 1)) % 65536 :=
  toNat_index_advanceIndex _ _

theorem toNat_index_fetch (m : Machine) (x : Register) :
    (m.fetch x).index.toNat = (m.index.toNat + (x.val + 1)) % 65536 :=
  toNat_index_advanceIndex _ _

/-- Storing V0 to VX by a word FX55, and fetching them by a word FX65, wherever the index register
points. The store changes the bytes of the registers, as far as memory has them, and the fetch the
registers; and both move the index register past the bytes. With the index register put back, a
fetch after a store gets back every register that had a byte and zero for the others, and a store
after a fetch leaves memory as it was. -/
theorem stored_registers_return (m : Machine) {storing fetching : UInt16}
    (hstoring : fits "FX55" storing) (hfetching : fits "FX65" fetching)
    (hx : fieldX fetching = fieldX storing) :
    let x := fieldX storing
    let start := m.index.toNat
    let stored := m.execute (.ofWord storing)
    let fetched := m.execute (.ofWord fetching)
    ((∀ r ≤ x, start + r.val < 4096 →
        stored.memory.byteAt (start + r.val) = m.readRegister r) ∧
      (∀ a, (∀ r ≤ x, a ≠ start + r.val) → stored.memory.byteAt a = m.memory.byteAt a) ∧
      stored = { m with memory := stored.memory, index := stored.index }) ∧
    (∀ r, ((stored.pointing m.index).execute (.ofWord fetching)).readRegister r =
      if r ≤ x then if start + r.val < 4096 then m.readRegister r else 0
      else m.readRegister r) ∧
    fetched = { m with registers := fetched.registers, index := fetched.index } ∧
    (stored.index.toNat = (start + x.val + 1) % 65536 ∧
      fetched.index.toNat = (start + x.val + 1) % 65536 ∧
      (stored.execute (.ofWord fetching)).index.toNat = (start + 2 * (x.val + 1)) % 65536 ∧
      (fetched.execute (.ofWord storing)).index.toNat = (start + 2 * (x.val + 1)) % 65536) ∧
    ((fetched.pointing m.index).execute (.ofWord storing)).memory = m.memory := by
  intro x start
  simp only [Instruction.ofWord_of_fits_store hstoring, Instruction.ofWord_of_fits_fetch hfetching,
    hx, execute]
  have hstored := m.toNat_index_store x
  have hfetched := m.toNat_index_fetch x
  refine ⟨⟨?_, ?_, rfl⟩, ?_, rfl, ⟨hstored, hfetched, ?_, ?_⟩, ?_⟩
  · exact fun r hr hroom => m.byteAt_store_of_le hr hroom
  · exact fun a hother => m.byteAt_store_of_ne hother
  · intro r
    rw [m.readRegister_fetch_of_stored _ (memory_pointing _ _) (index_pointing _ _),
      readRegister_pointing, readRegister_store]
  · rw [toNat_index_fetch, hstored]
    omega
  · rw [toNat_index_store, hfetched]
    omega
  · exact m.memory_store_of_fetched _ (memory_pointing _ _) (index_pointing _ _)
      fun r _ => readRegister_pointing _ _ r

/-- The index register points at the last byte but one of memory, so of four registers two are
stored; and at the very end of its bits, where no byte is stored and the index register wraps. -/
theorem stored_registers_return_edges :
    let second := Register.ofByte 1
    let third := Register.ofByte 2
    let m : Machine :=
      { powerOn Setup.standard with
        index := 0xFFE, registers := (Registers.initial.write second 7).write third 9 }
    let beyond : Machine := { m with index := 0xFFFF }
    let stored := m.execute (.ofWord 0xF355)
    let back := (stored.pointing m.index).execute (.ofWord 0xF365)
    fits "FX55" 0xF355 = true ∧ fits "FX65" 0xF365 = true ∧
    stored.memory.byteAt 0xFFF = 7 ∧ back.readRegister second = 7 ∧ back.readRegister third = 0 ∧
    (beyond.execute (.ofWord 0xF355)).memory.byteAt 0 = beyond.memory.byteAt 0 ∧
    (beyond.execute (.ofWord 0xF355)).index.toNat = 3 := by
  intro second third m beyond stored back
  have hstoring : fits "FX55" 0xF355 = true := by decide
  have hfetching : fits "FX65" 0xF365 = true := by decide
  obtain ⟨⟨hbyte, -⟩, hback, -⟩ := stored_registers_return m hstoring hfetching rfl
  obtain ⟨⟨-, hother, -⟩, -, -, ⟨hindex, -⟩, -⟩ :=
    stored_registers_return beyond hstoring hfetching rfl
  refine ⟨hstoring, hfetching, ?_, ?_, ?_, ?_, hindex.trans (by decide)⟩
  · exact (hbyte second (by decide) (by decide)).trans (by decide)
  · exact (hback second).trans (by decide)
  · exact (hback third).trans (by decide)
  · exact hother 0 (by decide)

end Chip8.Machine
