import Chip8.Proofs.Patterns
import Chip8.Proofs.Rendering
import Chip8.Proofs.SplitFrames

/-!
# Waiting for a key

A program that waits for a key executes the same word again and again. Each time the step back makes
up for the step past the word, so nothing of the machine moves but the timers, however long that
goes on and however it is divided into frames. The first cycle that finds a key down puts the lowest
one into VX and leaves the word behind.

Results:
* `advance?_of_waits`: a wait is a round of a single cycle.
* `cycles_of_waits`, `acknowledge_after_of_waits`: bare cycles and whole histories of waiting.
* `cycle_of_pressed`: the cycle that ends the wait.
* `wait_ends_with_key`: all of this for the words FX0A.
-/

namespace Chip8

variable {ε : Type}

namespace Action

/-- Nobody reports a key: a bare cycle, an acknowledgement, or a frame whose keyboard finds all keys
up if it answers at all. -/
def Keyless : Action ε → Prop
  | .cycle | .acknowledge => True
  | .frame _ host => ∀ keys, host.keys = .ok keys → keys = Keypad.released.keys
  | _ => False

/-- How many cycles an action comes to run. -/
def cyclesRun : Action ε → Nat
  | .cycle => 1
  | .frame count host =>
    match host.keys with
    | .error _ => 0
    | .ok _ => host.cyclesTraced count
  | _ => 0

end Action

namespace Keypad

/-- The key is down and no lower one is. -/
def IsLowest (k : Keypad) (key : Fin 16) : Prop :=
  k.keys.get key = true ∧ ∀ j < key, k.keys.get j = false

instance (k : Keypad) (key : Fin 16) : Decidable (k.IsLowest key) :=
  inferInstanceAs (Decidable (_ ∧ _))

theorem firstPressed_released : released.firstPressed = none := by decide

theorem exists_isLowest {k : Keypad} (h : ∃ key, k.keys.get key = true) :
    ∃ key, k.IsLowest key ∧ k.firstPressed = some key := by
  cases hfirst : k.firstPressed with
  | none =>
    obtain ⟨key, hkey⟩ := h
    rw [k.firstPressed_eq_none_iff.1 hfirst key] at hkey
    cases hkey
  | some key => exact ⟨key, (k.firstPressed_eq_some_iff key).1 hfirst, rfl⟩

end Keypad

namespace Machine

open Instruction (fieldX)

/-! ## The wait -/

/-- The next cycle asks for a key, and all keys are up. -/
structure Waits (m : Machine) (x : Register) : Prop where
  next : m.nextInstruction = .awaitKey x
  keypad : m.keypad = Keypad.released

/-- The step back takes the program counter to where the cycle has found it, so a wait is a round of
a single cycle. -/
theorem advance?_of_waits {m : Machine} {x : Register} (h : m.Waits x) : m.advance? = some m := by
  have hback : m.pc + 2 - 2 = m.pc := UInt16.add_sub_cancel m.pc 2
  have hkeys : m.skip.keypad.firstPressed = none := by
    rw [skip, h.keypad, Keypad.firstPressed_released]
  have hexecute : m.skip.execute (.awaitKey x) = m := by
    simp only [execute, awaitKey, hkeys]
    rw [skip, hback]
  simp only [advance?, h.next, Instruction.usesTimers, hexecute, Bool.false_eq_true, if_false]

theorem cycles_of_waits {m : Machine} {x : Register} (h : m.Waits x) (n : Nat) :
    m.cycles n = m.withTimers (m.timers.onCycles m.setup.cyclesPerTick n) := by
  have hround : m.advanceBy? 1 = some m := by simp only [advanceBy?, advance?_of_waits h]
  have hall := advanceBy?_mul hround n
  rw [Nat.mul_one] at hall
  exact cycles_eq_of_advanceBy? hall

theorem waits_cycles {m : Machine} {x : Register} (h : m.Waits x) (n : Nat) :
    (m.cycles n).Waits x := by
  rw [cycles_of_waits h]
  exact ⟨h.next, h.keypad⟩

/-! ## Frames -/

/-- Keys that are up already are latched without effect, so an action is nothing but its cycles and
perhaps an acknowledgement. -/
theorem acknowledge_perform_of_waits {m : Machine} {x : Register} (h : m.Waits x) {a : Action ε}
    (ha : a.Keyless) : (m.perform a).acknowledge = (m.cycles a.cyclesRun).acknowledge := by
  cases a with
  | cycle | acknowledge => rfl
  | frame count host =>
    rw [perform, Action.cyclesRun]
    cases hkeys : host.keys with
    | error e =>
      rw [Frame.run_of_keys_error m count hkeys]
      rfl
    | ok keys =>
      have hup : m.keypad = { keys := keys } := by
        rw [h.keypad, ha keys hkeys]
      rw [Frame.acknowledge_machine_run m count hkeys, holding_of_keypad hup]
  | _ => exact ha.elim

theorem acknowledge_after_of_waits {m : Machine} {x : Register} (h : m.Waits x)
    {history : List (Action ε)} (hkeyless : ∀ a ∈ history, a.Keyless) :
    (m.after history).acknowledge =
      (m.cycles (history.map Action.cyclesRun).sum).acknowledge := by
  induction history generalizing m with
  | nil => rfl
  | cons a rest ih =>
    obtain ⟨ha, hrest⟩ := List.forall_mem_cons.1 hkeyless
    -- the action may change the mark, which the rest of the history passes over
    rw [after_cons, ← acknowledge_after, acknowledge_perform_of_waits h ha, acknowledge_after,
      ih (waits_cycles h _) hrest, ← cycles_add, List.map_cons, List.sum_cons]

/-! ## The end of the wait -/

theorem cycle_of_pressed {m : Machine} {x : Register} {key : Fin 16}
    (hnext : m.nextInstruction = .awaitKey x) (hkey : m.keypad.firstPressed = some key) :
    m.cycle =
      { m with
        registers := m.registers.write x (UInt8.ofNat key.val)
        pc := m.pc + 2
        timers := m.timers.onCycle m.setup.cyclesPerTick } := by
  have hskip : m.skip.keypad.firstPressed = some key := hkey
  simp only [cycle, hnext, execute, awaitKey, hskip]
  rfl

/-- A word FX0A. While no key is down, any number of cycles leaves all but the timers as it was, and
these count on; and so does any history in which nobody reports a key, be it of bare cycles or of
frames of whatever lengths, up to the mark that the picture has been shown. In the first cycle that
finds a key down, at once or after any such history, VX becomes the lowest key that is down, the
program counter moves past the word, the timers count, and nothing else changes. -/
theorem wait_ends_with_key (m : Machine) (hword : fits "FX0A" m.nextWord) :
    let x := fieldX m.nextWord
    let ticks := m.setup.cyclesPerTick
    (m.keypad = Keypad.released →
      (∀ n, m.cycles n = m.withTimers (m.timers.onCycles ticks n)) ∧
      ∀ history : List (Action ε), (∀ a ∈ history, a.Keyless) →
        let n := (history.map Action.cyclesRun).sum
        let waited := m.after history
        waited = (m.withTimers (m.timers.onCycles ticks n)).marked waited.isDue ∧
        ∀ keys : Vector Bool 16, (∃ key, keys.get key = true) →
          ∃ key, Keypad.IsLowest { keys := keys } key ∧
            (waited.holding keys).cycle =
              { waited.holding keys with
                registers := m.registers.write x (UInt8.ofNat key.val)
                pc := m.pc + 2
                timers := waited.timers.onCycle ticks }) ∧
    ((∃ key, m.keypad.keys.get key = true) →
      ∃ key, m.keypad.IsLowest key ∧
        m.cycle =
          { m with
            registers := m.registers.write x (UInt8.ofNat key.val)
            pc := m.pc + 2
            timers := m.timers.onCycle ticks }) := by
  intro x ticks
  have hnext : m.nextInstruction = .awaitKey x := Instruction.ofWord_of_fits_awaitKey hword
  refine ⟨?_, ?_⟩
  · intro hkeypad
    have hwaits : m.Waits x := ⟨hnext, hkeypad⟩
    refine ⟨cycles_of_waits hwaits, ?_⟩
    intro history hkeyless n waited
    have hwaited : waited =
        (m.withTimers (m.timers.onCycles ticks n)).marked waited.isDue := by
      apply eq_marked_of_acknowledge_eq
      rw [acknowledge_after_of_waits hwaits hkeyless, cycles_of_waits hwaits]
    refine ⟨hwaited, ?_⟩
    intro keys hdown
    obtain ⟨key, hlowest, hfirst⟩ := Keypad.exists_isLowest (k := { keys := keys }) hdown
    -- which mark it is makes no difference to the cycle
    obtain ⟨due, hdue⟩ : ∃ due, waited =
        (m.withTimers (m.timers.onCycles ticks n)).marked due := ⟨_, hwaited⟩
    have hstill : (waited.holding keys).nextInstruction = .awaitKey x := by
      rw [hdue]
      exact hnext
    refine ⟨key, hlowest, ?_⟩
    rw [cycle_of_pressed hstill hfirst, hdue]
    rfl
  · intro hdown
    obtain ⟨key, hlowest, hfirst⟩ := Keypad.exists_isLowest hdown
    exact ⟨key, hlowest, cycle_of_pressed hnext hfirst⟩

/-- The word F30A waits through a frame of two cycles, a bare cycle and a frame without cycles, and
then finds the keys 9 and C down. With all keys down from the beginning it takes key 0 at once. -/
theorem wait_ends_with_key_after_frames :
    let m := (powerOn Setup.standard).load [0xF3, 0x0A]
    let polled (count : Nat) : Action String := .frame count { keys := .ok Keypad.released.keys }
    let history := [polled 2, .cycle, polled 0]
    let waited := m.after history
    let keys := ((Vector.replicate 16 false).set 9 true).set 12 true
    let pressed := m.holding (Vector.replicate 16 true)
    fits "FX0A" m.nextWord = true ∧ (∀ a ∈ history, a.Keyless) ∧
    m.cycles 3 = m.withTimers (m.timers.onCycles 10 3) ∧
    waited = (m.withTimers (m.timers.onCycles 10 3)).marked waited.isDue ∧
    (waited.holding keys).cycle.pc = 0x202 ∧
    (waited.holding keys).cycle.registers = Registers.initial.write 3 9 ∧
    pressed.cycle.registers = Registers.initial.write 3 0 := by
  intro m polled history waited keys pressed
  -- one evaluation for all, since each has to work out the memory at power-on
  obtain ⟨hword, hpressed, hx, hy⟩ : fits "FX0A" m.nextWord = true ∧
      fits "FX0A" pressed.nextWord = true ∧ fieldX m.nextWord = 3 ∧
      fieldX pressed.nextWord = 3 := by
    decide +kernel
  have hkeyless : ∀ a ∈ history, a.Keyless := by simp [history, polled, Action.Keyless]
  obtain ⟨hidle, -⟩ := @wait_ends_with_key String m hword
  obtain ⟨hcycles, hframes⟩ := hidle rfl
  obtain ⟨hwaited, hends⟩ := hframes history hkeyless
  obtain ⟨key, hlowest, hcycle⟩ := hends keys ⟨9, by decide⟩
  obtain ⟨first, hfirst, hnow⟩ := (@wait_ends_with_key String pressed hpressed).2 ⟨0, by decide⟩
  have hnine : ∀ key, Keypad.IsLowest { keys := keys } key → key = 9 := by decide
  have hzero : ∀ key, pressed.keypad.IsLowest key → key = 0 := by decide
  refine ⟨hword, hkeyless, hcycles 3, hwaited, ?_, ?_, ?_⟩
  · rw [hcycle]
    rfl
  · rw [hcycle, hnine key hlowest, hx]
    rfl
  · rw [hnow, hzero first hfirst, hy]
    rfl

end Machine

end Chip8
