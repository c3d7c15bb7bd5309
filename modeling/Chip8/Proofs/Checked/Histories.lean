import Chip8.Proofs.Checked.Machine

/-!
# No history meets a fault

Frames and the other actions of a host on the checked machine. From power-on, no sequence of actions
leads to an access outside of an array, a division by zero or a number that leaves its bits. What
keeps the faults away is that the stack is never deeper than its slots and that the phase of the
timers stays below the length of a tick, which is the one of the setup and at least one cycle.

Results:
* `frame_of`, `perform_of`: no action meets a fault as long as the phase is below the length of a
  tick.
* `no_fault`: no history from power-on meets one.
-/

namespace Chip8

variable {ε : Type}

/-- The images that an action brings have a size that a piece of memory can have, less than half of
the addresses. -/
def Action.Fits : Action ε → Prop
  | .load image => image.length < UInt64.size / 2
  | .loadFile _ (.contents image) => image.length < UInt64.size / 2
  | .reboot _ (.contents image) => image.length < UInt64.size / 2
  | _ => True

namespace Checked.Machine

/-! ## Actions -/

/-- The state right after switching on (`Chip8State::new`). -/
def powerOn (setup : Setup) : Outcome Machine := do
  let memory ← initialMemory
  .ok { setup := setup
        memory := memory
        registers := Registers.initial
        pc := UInt16.ofNat Memory.programStart
        index := 0
        stack := { slots := Vector.replicate 12 0, depth := 0 }
        timers := { delay := 0, sound := 0, cyclesPerTick := setup.cyclesPerTick, phase := 0 }
        picture := { pixels := Vector.replicate 2048 false, due := true }
        keypad := Keypad.released
        generator := Random.Generator.ofSeed (setup.seed.getD 0) }

def load (m : Machine) (image : List UInt8) : Outcome Machine := do
  let memory ← loadMemory m.memory image
  .ok { m with memory := memory }

/-- Loads the file, if there is anything to load (`load_program`). -/
def loadFile (m : Machine) (path : String) (file : ProgramFile) : Outcome Machine :=
  match file.image path with
  | .ok image => m.load image
  | .error _ => .ok m

def acknowledge (m : Machine) : Machine := { m with picture := { m.picture with due := false } }

def traceLine (m : Machine) : String :=
  Text.hex 3 m.pc.toNat ++ "  " ++ Text.hex 4 (m.memory.readWord m.pc.toUInt64).toNat ++ "  " ++
    m.nextInstruction.mnemonic

/-- Runs `n` cycles, each after its line has been taken: the loop of `run_frame`. The flag tells
whether all were run. -/
def cycles : (n : Nat) → Machine → Option (TraceSink ε) → Outcome (Machine × Bool)
  | 0, m, _ => .ok (m, true)
  | n + 1, m, none => do
    let next ← m.cycle
    cycles n next none
  | n + 1, m, some sink =>
    match sink.write m.traceLine with
    | .error _ => .ok (m, false)
    | .ok sink => do
      let next ← m.cycle
      cycles n next (some sink)

/-- Latches the keys, runs cycles, and acknowledges the picture if it was due and has been taken
(`run_frame`). -/
def frame (m : Machine) (count : Nat) (host : Host ε) : Outcome Machine :=
  match host.keys with
  | .error _ => .ok m
  | .ok keys => do
    let held := { m with keypad := { keys := keys } }
    let progress ← held.cycles count host.trace
    if progress.2 && progress.1.picture.due && host.displayFailure.isNone
    then .ok progress.1.acknowledge
    else .ok progress.1

def perform (m : Machine) : Action ε → Outcome Machine
  | .load image => m.load image
  | .loadFile path file => m.loadFile path file
  | .cycle => m.cycle
  | .latch snapshot => .ok { m with keypad := (Keypad.ofSnapshot? snapshot).getD m.keypad }
  | .acknowledge => .ok m.acknowledge
  | .reset => powerOn m.setup
  | .reboot path file => do
    let fresh ← powerOn m.setup
    fresh.loadFile path file
  | .frame count host => m.frame count host
  | .reseed key =>
    .ok { m with
      generator := if m.setup.seed.isSome then m.generator else Random.Generator.atPlace key 0 }

/-- Performs the actions of a history, the earliest one first. -/
def run (m : Machine) : List (Action ε) → Outcome Machine
  | [] => .ok m
  | a :: rest => do
    let next ← m.perform a
    next.run rest

/-! ## Actions have no faults -/

theorem powerOn_eq (setup : Setup) : powerOn setup = .ok (of (Chip8.Machine.powerOn setup)) := by
  rw [powerOn, initialMemory_eq, ok_bind, ← gridOf_dark]
  rfl

theorem load_of (m : Chip8.Machine) {image : List UInt8} (h : image.length < UInt64.size / 2) :
    (of m).load image = .ok (of (m.load image)) := by
  have hload := loadMemory_eq m.memory h
  have hmemory : (of m).memory = m.memory := rfl
  rw [load, hmemory, hload, ok_bind]
  rfl

theorem cycles_of {n : Nat} {m : Chip8.Machine} (h : m.InTick) (trace : Option (TraceSink ε)) :
    (of m).cycles n trace =
      .ok (of (Frame.runCycles n m trace).machine,
        (Frame.runCycles n m trace).failure.isNone) := by
  cases trace with
  | none =>
    rw [Frame.runCycles_none]
    induction n generalizing m with
    | zero => rfl
    | succ n ih =>
      rw [cycles, cycle_of h, ok_bind]
      exact ih (Chip8.Machine.inTick_cycle h)
  | some sink =>
    show (of m).cycles n (some sink) = .ok (of (Frame.runTraced n m sink).machine,
      (Frame.runTraced n m sink).failure.isNone)
    induction n generalizing m sink with
    | zero => rfl
    | succ n ih =>
      have hline : (of m).traceLine = m.traceLine := rfl
      rw [cycles, Frame.runTraced, hline]
      cases sink.write m.traceLine with
      | error e => rfl
      | ok grown =>
        dsimp only
        rw [cycle_of h, ok_bind]
        exact ih (Chip8.Machine.inTick_cycle h) grown

theorem frame_of {m : Chip8.Machine} (h : m.InTick) (count : Nat) (host : Host ε) :
    (of m).frame count host = .ok (of (Frame.run m count host).machine) := by
  unfold frame Frame.run
  cases host.keys with
  | error e => rfl
  | ok keys =>
    have hcycles := cycles_of (n := count) (m := m.holding keys) h host.trace
    have hheld : ({ of m with keypad := { keys := keys } } : Machine) = of (m.holding keys) := rfl
    dsimp only
    rw [hheld, hcycles, ok_bind]
    unfold Chip8.Machine.holding
    cases Frame.runCycles count { m with keypad := { keys := keys } } host.trace with
    | mk machine trace failure =>
      cases failure with
      | some e => rfl
      | none =>
        have hdue : (of machine).picture.due = machine.isDue := rfl
        dsimp only [Frame.finish]
        rw [hdue]
        cases machine.isDue with
        | false => rfl
        | true => cases host.displayFailure <;> rfl

theorem perform_of {m : Chip8.Machine} (h : m.InTick) {a : Action ε} (ha : a.Fits) :
    (of m).perform a = .ok (of (m.perform a)) := by
  cases a with
  | load image => exact load_of m ha
  | loadFile path file =>
    cases file with
    | missing | unreadable => rfl
    | contents image => exact load_of m ha
  | cycle => exact cycle_of h
  | latch snapshot =>
    simp only [perform, Chip8.Machine.perform, Chip8.Machine.latch?]
    cases Keypad.ofSnapshot? snapshot <;> rfl
  | acknowledge | reseed => rfl
  | reset => exact powerOn_eq m.setup
  | reboot path file =>
    have hsetup : (of m).setup = m.setup := rfl
    rw [perform, hsetup, powerOn_eq, ok_bind]
    cases file with
    | missing | unreadable => rfl
    | contents image => exact load_of (Chip8.Machine.powerOn m.setup) ha
  | frame count host => exact frame_of h count host

theorem run_of {m : Chip8.Machine} (h : m.InTick) {history : List (Action ε)}
    (hfits : ∀ a ∈ history, a.Fits) : (of m).run history = .ok (of (m.after history)) := by
  induction history generalizing m with
  | nil => rfl
  | cons a rest ih =>
    have ha : a.Fits := hfits a List.mem_cons_self
    have hrest : ∀ b ∈ rest, b.Fits := fun b hb => hfits b (List.mem_cons_of_mem a hb)
    rw [run, perform_of h ha, ok_bind]
    exact ih (Chip8.Machine.inTick_perform h a) hrest

/-! ## What keeps the faults away -/

/-- The stack is no deeper than its slots, and the timers count the cycles of a tick that is as long
as the setup says. -/
structure Sound (setup : Setup) (m : Machine) : Prop where
  setup_eq : m.setup = setup
  depth_le : m.stack.depth ≤ 12
  phase_lt : m.timers.phase < m.timers.cyclesPerTick
  cyclesPerTick_eq : m.timers.cyclesPerTick = setup.cyclesPerTick
  one_le_cyclesPerTick : 1 ≤ m.timers.cyclesPerTick

theorem sound_of {setup : Setup} {m : Chip8.Machine} (hsetup : m.setup = setup) (h : m.InTick) :
    (of m).Sound setup := by
  subst hsetup
  have hpos : 0 < m.setup.cyclesPerTick.toNat :=
    UInt32.lt_iff_toNat_lt.1 m.setup.cyclesPerTick_pos
  exact
    { setup_eq := rfl
      depth_le := m.stack.depth_le
      phase_lt := h
      cyclesPerTick_eq := rfl
      one_le_cyclesPerTick := UInt32.le_iff_toNat_le.2 hpos }

/-- From power-on every history comes to its end without a fault, in a state that is sound, and the
parts are then those of the machine after the history. -/
theorem no_fault (setup : Setup) {history : List (Action ε)} (hfits : ∀ a ∈ history, a.Fits) :
    ∃ final, (do let fresh ← powerOn setup; fresh.run history) = .ok final ∧
      final.Sound setup ∧ final = of ((Chip8.Machine.powerOn setup).after history) := by
  have hfresh := Chip8.Machine.inTick_powerOn setup
  have hsetup := Chip8.Machine.setup_after (Chip8.Machine.powerOn setup) history
  have hphase := Chip8.Machine.inTick_after hfresh history
  refine ⟨of ((Chip8.Machine.powerOn setup).after history), ?_, sound_of hsetup hphase, rfl⟩
  rw [powerOn_eq, ok_bind, run_of hfresh hfits]

/-- A frame of one cycle, which calls a subroutine, with the longest tick there is. -/
theorem no_fault_longest_tick :
    let setup : Setup := { cyclesPerTick := 0xFFFFFFFF, cyclesPerTick_pos := by decide }
    let host : Host String := { keys := .ok (Vector.replicate 16 true) }
    let history : List (Action String) := [.load [0x22, 0x00], .latch [true], .frame 1 host]
    ∃ final, (do let fresh ← powerOn setup; fresh.run history) = .ok final ∧
      final.Sound setup ∧ final.stack.depth = 1 ∧ final.timers.phase = 1 := by
  intro setup host history
  have hfits : ∀ a ∈ history, a.Fits := by simp [history, Action.Fits, UInt64.size]
  have hend : (of ((Chip8.Machine.powerOn setup).after history)).stack.depth = 1 ∧
      (of ((Chip8.Machine.powerOn setup).after history)).timers.phase = 1 := by decide +kernel
  obtain ⟨final, hrun, hsound, rfl⟩ := no_fault setup hfits
  exact ⟨_, hrun, hsound, hend⟩

end Checked.Machine

end Chip8
