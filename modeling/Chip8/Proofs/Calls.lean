import Chip8.Proofs.Encoding
import Chip8.Proofs.History

/-!
# Calls and returns

A call puts the address of the next instruction on the stack, above the addresses of the calls that
are still open. Whatever runs until the stack is down to those again, the machine then goes on right
after the call. The argument follows the part of the stack that lies above the open calls: only the
return that finds this part empty can take the address of the call itself.

Results:
* `stack_execute`: an instruction leaves the stack alone, pushes onto it or returns from it.
* `pending_or_returned`: a step keeps the call open or returns from it.
* `returned_of_first_back`: the first time that the stack is down again, the call has returned.
* `call_return_matching`: the same from the call on, and what happens at either end of the stack.
-/

namespace Chip8

namespace ReturnStack

/-! ## Pushes and pops on the open calls -/

theorem toList_of_push {s t : ReturnStack} {address : UInt16} (h : s.push? address = some t) :
    t.toList = address :: s.toList := by
  have hview := toList_push s address
  rw [h, Option.map_some] at hview
  split at hview
  · exact Option.some.inj hview
  · cases hview

theorem toList_of_pop {s t : ReturnStack} {address : UInt16} (h : s.pop? = some (address, t)) :
    s.toList = address :: t.toList := by
  have hview := toList_pop s
  rw [h, Option.map_some] at hview
  cases hs : s.toList with
  | nil => rw [hs] at hview; cases hview
  | cons top rest =>
    rw [hs] at hview
    obtain ⟨rfl, rfl⟩ := Prod.mk.inj (Option.some.inj hview)
    rfl

theorem exists_push_of_lt {s : ReturnStack} (h : s.depth < 12) (address : UInt16) :
    ∃ t, s.push? address = some t :=
  ⟨_, dif_pos h⟩

theorem push_of_full {s : ReturnStack} (h : s.depth = 12) (address : UInt16) :
    s.push? address = none :=
  dif_neg (by omega)

theorem pop_of_empty {s : ReturnStack} (h : s.depth = 0) : s.pop? = none := dif_neg (by omega)

end ReturnStack

namespace Machine

/-- An instruction leaves the stack alone, puts one address onto it, or takes the top address off
and goes there. -/
theorem stack_execute (m : Machine) (i : Instruction) :
    (m.execute i).stack = m.stack ∨
    (∃ address, m.stack.push? address = some (m.execute i).stack) ∨
    m.stack.pop? = some ((m.execute i).pc, (m.execute i).stack) := by
  cases i with
  | call t =>
    simp only [execute, call]
    split
    · next stack hpush => exact .inr (.inl ⟨m.pc, hpush⟩)
    · exact .inl rfl
  | ret =>
    simp only [execute, ret]
    split
    · next address stack hpop => exact .inr (.inr hpop)
    · exact .inl rfl
  | skipIf condition =>
    simp only [execute]
    split <;> exact .inl rfl
  | awaitKey x =>
    simp only [execute, awaitKey]
    split <;> exact .inl rfl
  | _ => exact .inl rfl

/-! ## An open call -/

/-- A call that is to go on at `address` is still open, and below it are the open calls `older`. -/
def Pending (address : UInt16) (older : List UInt16) (m : Machine) : Prop :=
  ∃ inner, m.stack.toList = inner ++ address :: older

/-- The call has been returned from: the machine stands at `address`, and the open calls are
`older`. -/
def Returned (address : UInt16) (older : List UInt16) (m : Machine) : Prop :=
  m.pc = address ∧ m.stack.toList = older

theorem depth_of_pending {address : UInt16} {older : List UInt16} {m : Machine}
    (h : m.Pending address older) : older.length < m.stack.depth := by
  obtain ⟨inner, hstack⟩ := h
  rw [← ReturnStack.length_toList, hstack, List.length_append, List.length_cons]
  omega

theorem depth_of_returned {address : UInt16} {older : List UInt16} {m : Machine}
    (h : m.Returned address older) : m.stack.depth = older.length := by
  rw [← ReturnStack.length_toList, h.2]

/-- A cycle pushes above the open call, or pops above it, or returns from it. -/
theorem pending_or_returned_cycle {address : UInt16} {older : List UInt16} {m : Machine}
    (h : m.Pending address older) :
    m.cycle.Pending address older ∨ m.cycle.Returned address older := by
  obtain ⟨inner, hstack⟩ := h
  have hskip : m.skip.stack.toList = inner ++ address :: older := hstack
  rcases stack_execute m.skip m.nextInstruction with hsame | ⟨top, hpush⟩ | hpop
  · left
    exact ⟨inner, (congrArg ReturnStack.toList hsame).trans hskip⟩
  · left
    exact ⟨top :: inner, by rw [List.cons_append, ← hskip]; exact ReturnStack.toList_of_push hpush⟩
  · have hview := ReturnStack.toList_of_pop hpop
    rw [hskip] at hview
    cases inner with
    | nil =>
      right
      obtain ⟨hpc, hrest⟩ := List.cons.inj hview
      exact ⟨hpc.symm, hrest.symm⟩
    | cons top inner =>
      left
      exact ⟨inner, (List.cons.inj hview).2.symm⟩

/-- No step but a reset closes an open call otherwise than by returning from it. -/
theorem pending_or_returned {address : UInt16} {older : List UInt16} {m : Machine}
    (h : m.Pending address older) {s : Step} (hs : s ≠ .reset) :
    (m.step s).Pending address older ∨ (m.step s).Returned address older := by
  cases s with
  | cycle => exact pending_or_returned_cycle h
  | reset => exact absurd rfl hs
  | load | hold | acknowledge | reseed => exact .inl h

/-- The first time that the stack is no higher than below the open call, the call has just been
returned from. -/
theorem returned_of_first_back {address : UInt16} {older : List UInt16} {m : Machine}
    {steps : List Step} (h : m.Pending address older) (hreset : Step.reset ∉ steps)
    (hfirst : ∀ k < steps.length, (m.through (steps.take k)).stack.depth ≠ older.length)
    (hback : (m.through steps).stack.depth = older.length) :
    (m.through steps).Returned address older := by
  induction steps generalizing m with
  | nil =>
    have hdepth := depth_of_pending h
    rw [through_nil] at hback
    omega
  | cons s rest ih =>
    obtain ⟨hs, hrest⟩ := List.ne_and_not_mem_of_not_mem_cons hreset
    rcases pending_or_returned h hs.symm with hopen | hdone
    · apply ih hopen hrest ?_ hback
      intro k hk
      exact hfirst (k + 1) (Nat.succ_lt_succ hk)
    · -- the stack is down right after `s`, so `s` is the last step
      cases rest with
      | nil => exact hdone
      | cons s' rest =>
        have hnot := hfirst 1 (by simp)
        exact absurd (depth_of_returned hdone) hnot

/-! ## From the call on -/

theorem pending_of_call {m : Machine} (hword : m.nextWord.toNat / 4096 = 2)
    (hdepth : m.stack.depth < 12) : m.cycle.Pending (m.pc + 2) m.stack.toList := by
  obtain ⟨stack, hpush⟩ := ReturnStack.exists_push_of_lt hdepth (m.pc + 2)
  have hcall : m.skip.execute m.nextInstruction =
      { m.skip with stack := stack, pc := UInt16.ofNat (Instruction.fieldNNN m.nextWord).val } := by
    have hskip : m.skip.stack.push? m.skip.pc = some stack := hpush
    simp only [nextInstruction, Instruction.ofWord_call hword, execute, call, hskip]
  refine ⟨[], ?_⟩
  rw [cycle, hcall]
  exact ReturnStack.toList_of_push hpush

/-- A call that finds no room on the stack does nothing but pass over itself. -/
theorem cycle_of_dropped_call {m : Machine} (hword : m.nextWord.toNat / 4096 = 2)
    (hdepth : m.stack.depth = 12) : m.cycle = m.skip.countCycle := by
  have hskip : m.skip.stack.push? m.skip.pc = none := ReturnStack.push_of_full hdepth _
  simp only [cycle, nextInstruction, Instruction.ofWord_call hword, execute, call, hskip]

/-- A return without an open call does nothing but pass over itself. -/
theorem cycle_of_idle_return {m : Machine} (hword : m.nextWord = 0x00EE)
    (hdepth : m.stack.depth = 0) : m.cycle = m.skip.countCycle := by
  have hskip : m.skip.stack.pop? = none := ReturnStack.pop_of_empty hdepth
  simp only [cycle, nextInstruction, hword, Instruction.ofWord_ret, execute, ret, hskip]

/-- A call with room on the stack is matched by the return that brings the stack down to where it
was: whatever steps lie between them, a reset apart, the machine then goes on after the call with
the same open calls as before. A call without room and a return without an open call leave the
stack as it is and pass on to the next instruction. -/
theorem call_return_matching (m : Machine) :
    (m.nextWord.toNat / 4096 = 2 → m.stack.depth < 12 →
      ∀ steps : List Step, Step.reset ∉ steps →
        (∀ k < steps.length, (m.cycle.through (steps.take k)).stack.depth ≠ m.stack.depth) →
        (m.cycle.through steps).stack.depth = m.stack.depth →
        (m.cycle.through steps).pc = m.pc + 2 ∧
        (m.cycle.through steps).stack.toList = m.stack.toList) ∧
    (m.nextWord.toNat / 4096 = 2 → m.stack.depth = 12 →
      m.cycle = m.skip.countCycle ∧ m.cycle.stack = m.stack ∧ m.cycle.pc = m.pc + 2) ∧
    (m.nextWord = 0x00EE → m.stack.depth = 0 →
      m.cycle = m.skip.countCycle ∧ m.cycle.stack = m.stack ∧ m.cycle.pc = m.pc + 2) := by
  refine ⟨?_, ?_, ?_⟩
  · intro hword hdepth steps hreset hfirst hback
    have hopen := pending_of_call hword hdepth
    rw [← ReturnStack.length_toList m.stack] at hback
    have hfirst' : ∀ k < steps.length,
        (m.cycle.through (steps.take k)).stack.depth ≠ m.stack.toList.length := by
      rw [ReturnStack.length_toList]
      exact hfirst
    exact returned_of_first_back hopen hreset hfirst' hback
  · intro hword hdepth
    have hcycle := cycle_of_dropped_call hword hdepth
    rw [hcycle]
    exact ⟨rfl, rfl, rfl⟩
  · intro hword hdepth
    have hcycle := cycle_of_idle_return hword hdepth
    rw [hcycle]
    exact ⟨rfl, rfl, rfl⟩

/-- A subroutine that calls another one, with keys and a load in between; a call on a stack with
twelve open calls; and a return without any. The code stands at the beginning of memory. -/
theorem call_return_matching_nested :
    let code (bytes : List UInt8) : Machine :=
      { powerOn Setup.standard with
        pc := 0, memory := Memory.overlay { bytes := Vector.replicate 4096 0 } 0 bytes }
    let m := code [0x20, 0x04, 0x00, 0x00, 0x20, 0x08, 0x00, 0xEE, 0x00, 0xEE]
    let steps : List Step :=
      [.cycle, .hold (Vector.replicate 16 true), .cycle, .load [0xFF], .cycle]
    let full := { m with
      stack := { slots := Vector.replicate 12 0x300, depth := 12, depth_le := Nat.le_refl 12 } }
    let idle := code [0x00, 0xEE]
    ((m.cycle.through steps).pc = 2 ∧ (m.cycle.through steps).stack.toList = []) ∧
    (full.cycle.stack = full.stack ∧ full.cycle.pc = 2) ∧
    idle.cycle.stack = idle.stack ∧ idle.cycle.pc = 2 := by
  intro code m steps full idle
  have hword : m.nextWord.toNat / 4096 = 2 := by decide +kernel
  have hreset : Step.reset ∉ steps := by simp [steps]
  have hfirst : ∀ k < steps.length,
      (m.cycle.through (steps.take k)).stack.depth ≠ m.stack.depth := by decide +kernel
  have hback : (m.cycle.through steps).stack.depth = m.stack.depth := by decide +kernel
  have hidle : idle.nextWord = 0x00EE := by decide +kernel
  obtain ⟨-, hfull⟩ := (call_return_matching full).2.1 hword rfl
  obtain ⟨-, hrest⟩ := (call_return_matching idle).2.2 hidle rfl
  exact ⟨(call_return_matching m).1 hword (by decide) steps hreset hfirst hback, hfull, hrest⟩

end Machine

end Chip8
