import Chip8.Machine.Execute
import Mathlib.Tactic.Common

/-!
# Blocks of memory

Two instructions write several bytes from the index register on, and one reads several. The bytes
have consecutive addresses that never wrap; those past the end of memory are lost when they are
written and zero when they are read.

Results:
* `byteAt_foldl_write`, `read_foldl_write`: writes one after the other, to memory and to registers.
* `byteAt_writeBlock`, `byteAt_store`: memory after a block of values has been written.
* `readRegister_fetch`: the registers after a block has been read.
-/

namespace Chip8

/-- Values written from an address on, the first one `k` bytes further, stand there in their
order. -/
theorem Memory.byteAt_foldl_write (m : Memory) (start : Address) {values : List UInt8} {k : Nat}
    (h : start.toNat + k + values.length < UInt64.size) (a : Nat) :
    ((values.zipIdx k).foldl
        (fun m entry => m.write (start + UInt64.ofNat entry.2) entry.1) m).byteAt a =
      if start.toNat + k ≤ a ∧ a < start.toNat + k + values.length ∧ a < 4096
      then values.getD (a - (start.toNat + k)) 0 else m.byteAt a := by
  induction values generalizing k m with
  | nil =>
    rw [if_neg (by rw [List.length_nil]; omega)]
    rfl
  | cons value rest ih =>
    rw [List.length_cons] at h
    have hplace : (start + UInt64.ofNat k).toNat = start.toNat + k := by
      rw [UInt64.toNat_add, UInt64.toNat_ofNat', Nat.add_mod_mod, Nat.mod_eq_of_lt]
      exact Nat.lt_of_le_of_lt (Nat.le_add_right _ _) h
    rw [List.zipIdx_cons, List.foldl_cons, ih _ (by omega), byteAt_write, hplace,
      List.length_cons]
    by_cases hhere : a = start.toNat + k
    · rw [if_neg (by omega)]
      by_cases hroom : a < 4096
      · rw [if_pos ⟨hhere, hroom⟩, if_pos (by omega), hhere, Nat.sub_self]
        rfl
      · rw [if_neg (by omega), if_neg (by omega)]
    · by_cases hlater : start.toNat + (k + 1) ≤ a ∧
          a < start.toNat + (k + 1) + rest.length ∧ a < 4096
      · have hnext : a - (start.toNat + k) = a - (start.toNat + (k + 1)) + 1 := by omega
        rw [if_pos hlater, if_pos (by omega), hnext]
        rfl
      · rw [if_neg hlater, if_neg (by omega), if_neg (by omega)]

/-- Each register of a list gets its own value, and the others keep theirs. -/
theorem Registers.read_foldl_write (r : Registers) (value : Register → UInt8)
    (list : List Register) (y : Register) :
    let written := list.foldl (fun r x => r.write x (value x)) r
    (y ∈ list → written.read y = value y) ∧ (y ∉ list → written.read y = r.read y) := by
  induction list generalizing r with
  | nil => simp
  | cons x rest ih =>
    obtain ⟨hin, hout⟩ := ih (r.write x (value x))
    rw [read_write] at hout
    rw [List.foldl_cons, List.mem_cons]
    constructor
    · intro hmem
      by_cases hrest : y ∈ rest
      · exact hin hrest
      · have hx : y = x := hmem.resolve_right hrest
        rw [hout hrest, if_pos hx, hx]
    · intro hother
      rw [hout fun hrest => hother (.inr hrest), if_neg fun hx => hother (.inl hx)]

namespace Machine

/-- The block begins where the index register points. -/
theorem byteAt_writeBlock (m : Machine) (values : List UInt8) (h : values.length ≤ 65536)
    (a : Nat) :
    (m.writeBlock values).memory.byteAt a =
      if m.index.toNat ≤ a ∧ a < m.index.toNat + values.length ∧ a < 4096
      then values.getD (a - m.index.toNat) 0 else m.memory.byteAt a := by
  have hindex := m.index.toNat_lt
  have hstart : m.index.toUInt64.toNat = m.index.toNat := UInt16.toNat_toUInt64 _
  have hroom : m.index.toUInt64.toNat + 0 + values.length < UInt64.size := by
    rw [hstart]
    simp only [UInt64.size]
    omega
  have hfold := m.memory.byteAt_foldl_write m.index.toUInt64 hroom a
  rw [hstart, Nat.add_zero] at hfold
  exact hfold

/-- A store puts down the registers up to VX. -/
theorem byteAt_store (m : Machine) (x : Register) (a : Nat) :
    (m.store x).memory.byteAt a =
      if m.index.toNat ≤ a ∧ a < m.index.toNat + (x.val + 1) ∧ a < 4096
      then (x.upTo.map m.readRegister).getD (a - m.index.toNat) 0 else m.memory.byteAt a := by
  have hlength : (x.upTo.map m.readRegister).length = x.val + 1 := by
    rw [List.length_map, Register.length_upTo]
  have hblock := m.byteAt_writeBlock (x.upTo.map m.readRegister) (by omega) a
  rw [hlength] at hblock
  exact hblock

theorem readIndexed_of_register (m : Machine) (x : Register) :
    m.readIndexed (UInt64.ofNat x.val) = m.memory.byteAt (m.index.toNat + x.val) := by
  have hindex := m.index.toNat_lt
  rw [readIndexed_eq, UInt64.toNat_add, UInt16.toNat_toUInt64, UInt64.toNat_ofNat']
  congr 1
  omega

/-- The registers up to VX hold the bytes from the index register on, and the others are as they
were. -/
theorem readRegister_fetch (m : Machine) (x y : Register) :
    (m.fetch x).readRegister y =
      if y ≤ x then m.memory.byteAt (m.index.toNat + y.val) else m.readRegister y := by
  obtain ⟨hin, hout⟩ := m.registers.read_foldl_write
    (fun x => m.readIndexed (UInt64.ofNat x.val)) x.upTo y
  rw [Register.mem_upTo] at hin hout
  rw [← readIndexed_of_register]
  by_cases hy : y ≤ x
  · rw [if_pos hy]
    exact hin hy
  · rw [if_neg hy]
    exact hout hy

end Machine

end Chip8
