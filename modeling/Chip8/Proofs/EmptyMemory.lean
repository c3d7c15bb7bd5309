import Chip8.Proofs.Checked.Histories
import Chip8.Proofs.Tracing

/-!
# Empty memory

A word of zeros stands for a routine that does nothing. So where memory holds only zeros, and past
its end, each cycle moves the program counter on by two, the timers count, and that is all. Past the
end of memory this goes on until the program counter has used up its sixteen bits and comes back to
the first byte of memory, or to the second one if it was odd.

Results:
* `advance?_of_nextWord`: a word of zeros is passed over.
* `advanceBy?_of_emptyAhead`, `cycles_of_emptyAhead`: and so are as many of them as there are.
* `emptyAhead_of_le`: past the end of memory there is nothing else until the program counter wraps.
* `empty_memory_passed_over`: all of this.
-/

namespace Chip8.Machine

variable {ε : Type}

/-- The `n` words from the program counter on are zero. None begins past the sixteen bits of the
program counter, though the last one may end one byte past them. -/
structure EmptyAhead (m : Machine) (n : Nat) : Prop where
  place_le : m.pc.toNat + 2 * n ≤ 65537
  byteAt_eq : ∀ a, m.pc.toNat ≤ a → a < m.pc.toNat + 2 * n → m.memory.byteAt a = 0

/-- The machine with its program counter `n` words further. -/
def pastWords (m : Machine) (n : Nat) : Machine := { m with pc := m.pc + UInt16.ofNat (2 * n) }

theorem toNat_pc_pastWords (m : Machine) (n : Nat) :
    (m.pastWords n).pc.toNat = (m.pc.toNat + 2 * n) % 65536 := by
  rw [pastWords, UInt16.toNat_add, UInt16.toNat_ofNat', Nat.add_mod_mod]

theorem pastWords_zero (m : Machine) : m.pastWords 0 = m := by
  have hpc : m.pc + UInt16.ofNat (2 * 0) = m.pc := UInt16.add_zero m.pc
  rw [pastWords, hpc]

theorem pastWords_skip (m : Machine) (n : Nat) : m.skip.pastWords n = m.pastWords (n + 1) := by
  have hpc : m.pc + 2 + UInt16.ofNat (2 * n) = m.pc + UInt16.ofNat (2 * (n + 1)) := by
    rw [Nat.mul_succ, Nat.add_comm, UInt16.ofNat_add, UInt16.add_assoc]
    rfl
  simp only [pastWords, skip, hpc]

/-! ## One word -/

theorem advance?_of_nextWord {m : Machine} (h : m.nextWord = 0) : m.advance? = some m.skip := by
  have hnext : m.nextInstruction = .system 0 := by
    rw [nextInstruction, h]
    rfl
  rw [advance?, hnext]
  rfl

theorem nextWord_of_emptyAhead {m : Machine} {n : Nat} (h : m.EmptyAhead (n + 1)) :
    m.nextWord = 0 := by
  have hfirst := h.byteAt_eq m.pc.toNat (Nat.le_refl _) (by omega)
  have hsecond := h.byteAt_eq (m.pc.toNat + 1) (Nat.le_succ _) (by omega)
  apply UInt16.toNat_inj.1
  rw [toNat_nextWord, hfirst, hsecond]
  rfl

/-- What is empty ahead stays so when its first word has been passed over. Only the last word can
take the program counter past its sixteen bits, and then there is nothing left to say. -/
theorem emptyAhead_skip {m : Machine} {n : Nat} (h : m.EmptyAhead (n + 1)) :
    m.skip.EmptyAhead n := by
  have hplace := h.place_le
  have hwrap : m.skip.pc.toNat = (m.pc.toNat + 2) % 65536 := UInt16.toNat_add m.pc 2
  cases n with
  | zero => exact ⟨by omega, fun a hfrom hto => by omega⟩
  | succ n =>
    have hpc : m.skip.pc.toNat = m.pc.toNat + 2 := by omega
    refine ⟨by omega, fun a hfrom hto => ?_⟩
    exact h.byteAt_eq a (by omega) (by omega)

/-! ## Many words -/

theorem advanceBy?_of_emptyAhead {m : Machine} {n : Nat} (h : m.EmptyAhead n) :
    m.advanceBy? n = some (m.pastWords n) := by
  induction n generalizing m with
  | zero => rw [advanceBy?, pastWords_zero]
  | succ n ih =>
    have hword := advance?_of_nextWord (nextWord_of_emptyAhead h)
    rw [← pastWords_skip, ← ih (emptyAhead_skip h)]
    simp only [advanceBy?, hword]

theorem cycles_of_emptyAhead {m : Machine} {n : Nat} (h : m.EmptyAhead n) :
    m.cycles n =
      (m.pastWords n).withTimers (m.timers.onCycles m.setup.cyclesPerTick n) :=
  cycles_eq_of_advanceBy? (advanceBy?_of_emptyAhead h)

theorem toNat_pc_of_emptyAhead {m : Machine} {n : Nat} (h : m.EmptyAhead n) :
    (m.cycles n).pc.toNat = (m.pc.toNat + 2 * n) % 65536 := by
  rw [cycles_of_emptyAhead h, ← toNat_pc_pastWords]
  rfl

/-! ## Past the end of memory -/

theorem emptyAhead_of_le {m : Machine} {n : Nat} (h : 4096 ≤ m.pc.toNat)
    (hplace : m.pc.toNat + 2 * n ≤ 65537) : m.EmptyAhead n :=
  ⟨hplace, fun _ hfrom _ => Memory.byteAt_of_le _ (Nat.le_trans h hfrom)⟩

/-- No cycle meets a fault. -/
theorem cycles_checked {m : Machine} (h : m.InTick) (n : Nat) :
    (Checked.Machine.of m).cycles n (none : Option (TraceSink ε)) =
      .ok (.of (m.cycles n), true) := by
  rw [Checked.Machine.cycles_of h, Frame.runCycles_none]
  rfl

/-- As long as the bytes ahead of the program counter are zero or lie past the end of memory, `n`
cycles move the program counter on by `n` words, modulo its sixteen bits, let the timers count, and
do nothing else. So from any place past the end of memory the machine comes back to memory after
half the way that is left to the end of the sixteen bits, rounded up, and not before; it is then at
the first byte or at the second one, has met no fault, and is otherwise as it was but for the
timers. -/
theorem empty_memory_passed_over (m : Machine) :
    (∀ n, m.pc.toNat + 2 * n ≤ 65537 →
      (∀ a, m.pc.toNat ≤ a → a < m.pc.toNat + 2 * n → m.memory.byteAt a = 0 ∨ 4096 ≤ a) →
      m.cycles n =
        { m with
          pc := m.pc + UInt16.ofNat (2 * n)
          timers := m.timers.onCycles m.setup.cyclesPerTick n } ∧
      (m.cycles n).pc.toNat = (m.pc.toNat + 2 * n) % 65536) ∧
    (4096 ≤ m.pc.toNat →
      let way := 65536 - m.pc.toNat
      let back := (way + 1) / 2
      (∀ n ≤ back,
        m.cycles n =
          { m with
            pc := m.pc + UInt16.ofNat (2 * n)
            timers := m.timers.onCycles m.setup.cyclesPerTick n } ∧
        (m.InTick →
          (Checked.Machine.of m).cycles n (none : Option (TraceSink ε)) =
            .ok (.of (m.cycles n), true))) ∧
      (∀ n < back, 4096 ≤ (m.cycles n).pc.toNat) ∧
      (m.cycles back).pc.toNat = m.pc.toNat % 2) := by
  constructor
  · intro n hplace hzero
    have hempty : m.EmptyAhead n := by
      refine ⟨hplace, fun a hfrom hto => ?_⟩
      exact (hzero a hfrom hto).elim id fun hpast => Memory.byteAt_of_le _ hpast
    exact ⟨cycles_of_emptyAhead hempty, toNat_pc_of_emptyAhead hempty⟩
  · intro hpast way back
    have hlt := m.pc.toNat_lt
    have hempty {n : Nat} (hn : n ≤ back) : m.EmptyAhead n :=
      emptyAhead_of_le hpast (by omega)
    refine ⟨fun n hn => ⟨cycles_of_emptyAhead (hempty hn), fun h => cycles_checked h n⟩, ?_, ?_⟩
    · intro n hn
      rw [toNat_pc_of_emptyAhead (hempty (Nat.le_of_lt hn))]
      omega
    · rw [toNat_pc_of_emptyAhead (hempty (Nat.le_refl _))]
      omega

/-- From the last byte of memory, which an odd program counter reads together with the byte past it,
and from the last place of all, each to the second byte of memory. -/
theorem empty_memory_passed_over_odd :
    let m := { powerOn Setup.standard with pc := 0xFFF }
    let last := { powerOn Setup.standard with pc := 0xFFFF }
    (m.cycles 30721).pc.toNat = 1 ∧
    (4096 ≤ last.pc.toNat ∧ (last.cycles 1).pc.toNat = 1 ∧
      (Checked.Machine.of last).cycles 1 (none : Option (TraceSink String)) =
        .ok (.of (last.cycles 1), true)) := by
  intro m last
  have hzero : ∀ a, m.pc.toNat ≤ a → a < m.pc.toNat + 2 * 30721 →
      m.memory.byteAt a = 0 ∨ 4096 ≤ a := by
    intro a hfrom _
    have hbyte := Memory.byteAt_initial a
    have hpc : m.pc.toNat = 4095 := rfl
    rw [if_neg (by omega)] at hbyte
    exact .inl hbyte
  have hlast : 4096 ≤ last.pc.toNat := by decide
  have hway : (65536 - last.pc.toNat + 1) / 2 = 1 := by decide
  obtain ⟨hpassed, -⟩ := @empty_memory_passed_over String m
  obtain ⟨-, hreturns⟩ := @empty_memory_passed_over String last
  obtain ⟨hcycles, -, hback⟩ := hreturns hlast
  rw [hway] at hcycles hback
  exact ⟨(hpassed 30721 (by decide) hzero).2.trans (by decide), hlast, hback.trans (by decide),
    (hcycles 1 (Nat.le_refl 1)).2 (inTick_powerOn Setup.standard)⟩

end Chip8.Machine
