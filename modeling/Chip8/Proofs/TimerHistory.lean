import Chip8.Proofs.CycleLog
import Chip8.Proofs.Encoding

/-!
# The timers as a function of the log

What a timer shows can be worked out from the log of a run alone: the value last written to it, less
the ticks completed since. With `c` cycles to the tick, `n / c` ticks are completed in the first `n`
cycles, whatever these cycles do. A cycle writes before it counts, so a value written in cycle `k`
misses only the ticks of the first `k - 1` cycles.

Results:
* `timers_execute_next`: an instruction writes what its word says and leaves the phase alone.
* `reading_succ`, `reading_of_write`: what one more cycle does to the value worked out.
* `keepsTime_cycle`, `keepsTime_through`: the timers show that value after any run.
* `timers_follow_log`: all of this, and what becomes of writes of 0 and 1 to the sound timer.
-/

namespace Chip8

variable {ε : Type}

namespace Machine

/-! ## Writes to the timers -/

/-- What the next cycle writes to the delay timer: VX, if its word is FX15. -/
def delayWrite? (m : Machine) : Option UInt8 :=
  if m.nextWord.toNat / 4096 = 0xF ∧ m.nextWord.toNat % 256 = 0x15 then
    some (m.readRegister (Instruction.fieldX m.nextWord))
  else none

/-- What the next cycle writes to the sound timer: VX, if its word is FX18 and VX is above 1. -/
def soundWrite? (m : Machine) : Option UInt8 :=
  if m.nextWord.toNat / 4096 = 0xF ∧ m.nextWord.toNat % 256 = 0x18 ∧
      1 < m.readRegister (Instruction.fieldX m.nextWord) then
    some (m.readRegister (Instruction.fieldX m.nextWord))
  else none

/-- The last write in a log: the number of its cycle, counted from one, and the value written. -/
def lastWrite? (write? : Machine → Option UInt8) (log : List Machine) : Option (Nat × UInt8) :=
  (log.zipIdx 1).reverse.findSome? fun entry =>
    (write? entry.1).map fun value => (entry.2, value)

theorem lastWrite?_concat (write? : Machine → Option UInt8) (log : List Machine) (m : Machine) :
    lastWrite? write? (log ++ [m]) =
      ((write? m).map fun value => (log.length + 1, value)).or (lastWrite? write? log) := by
  rw [lastWrite?, List.zipIdx_append, List.reverse_append, List.findSome?_append,
    Nat.add_comm 1]
  cases h : write? m <;> simp [h, lastWrite?]

theorem lastWrite?_le {write? : Machine → Option UInt8} {log : List Machine} {k : Nat}
    {value : UInt8} (h : lastWrite? write? log = some (k, value)) : k ≤ log.length := by
  obtain ⟨entry, hmem, hentry⟩ := List.exists_of_findSome?_eq_some h
  obtain ⟨written, -, hpair⟩ := Option.map_eq_some_iff.1 hentry
  have hplace := List.mem_zipIdx (List.mem_reverse.1 hmem)
  have hk : entry.2 = k := congrArg Prod.fst hpair
  omega

/-! ## Counting down -/

/-- What a timer shows after `n` cycles of `c` to the tick, where the last write to it is given. -/
def reading (c n : Nat) : Option (Nat × UInt8) → Nat
  | none => 0
  | some (k, value) => value.toNat - (n / c - (k - 1) / c)

/-- A cycle that completes a tick takes one off, if the last write lies before it. -/
theorem reading_succ {c n : Nat} {last? : Option (Nat × UInt8)}
    (h : ∀ k value, last? = some (k, value) → k ≤ n) :
    reading c (n + 1) last? =
      if c ∣ n + 1 then reading c n last? - 1 else reading c n last? := by
  cases last? with
  | none => simp [reading]
  | some last =>
    obtain ⟨k, value⟩ := last
    have hk := h k value rfl
    have hticks : (k - 1) / c ≤ n / c := Nat.div_le_div_right (by omega)
    simp only [reading]
    split
    · next hdvd =>
      rw [Nat.succ_div_of_dvd hdvd]
      omega
    · next hdvd => rw [Nat.succ_div_of_not_dvd hdvd]

/-- A cycle that completes a tick takes one off the value that it writes itself. -/
theorem reading_of_write (c n : Nat) (value : UInt8) :
    reading c (n + 1) (some (n + 1, value)) =
      if c ∣ n + 1 then value.toNat - 1 else value.toNat := by
  simp only [reading, Nat.add_sub_cancel]
  split
  · next hdvd =>
    rw [Nat.succ_div_of_dvd hdvd]
    omega
  · next hdvd => rw [Nat.succ_div_of_not_dvd hdvd, Nat.sub_self, Nat.sub_zero]

/-- What one more cycle does to the reading of a log. -/
theorem reading_concat {write? : Machine → Option UInt8} {log : List Machine} {value : UInt8}
    (c : Nat) (m : Machine)
    (h : value.toNat = reading c log.length (lastWrite? write? log)) :
    reading c (log ++ [m]).length (lastWrite? write? (log ++ [m])) =
      if c ∣ log.length + 1 then ((write? m).getD value).toNat - 1
      else ((write? m).getD value).toNat := by
  rw [lastWrite?_concat, List.length_append, List.length_singleton]
  cases write? m with
  | none =>
    rw [Option.map_none, Option.none_or, reading_succ fun k value => lastWrite?_le, Option.getD_none,
      h]
  | some written => exact reading_of_write c log.length written

end Machine

theorem Timers.toNat_onCycle {cyclesPerTick : UInt32} {t : Timers} (h : t.phase < cyclesPerTick) :
    (t.onCycle cyclesPerTick).delay.toNat =
      (if cyclesPerTick.toNat ∣ t.phase.toNat + 1 then t.delay.toNat - 1 else t.delay.toNat) ∧
    (t.onCycle cyclesPerTick).sound.toNat =
      (if cyclesPerTick.toNat ∣ t.phase.toNat + 1 then t.sound.toNat - 1 else t.sound.toNat) := by
  have hphase := toNat_phase_onCycle h
  rw [phase_onCycle] at hphase
  simp only [onCycle]
  split
  · next hzero =>
    rw [hzero, UInt32.toNat_zero] at hphase
    have hdvd := Nat.dvd_of_mod_eq_zero hphase.symm
    rw [if_pos hdvd, if_pos hdvd]
    exact ⟨toNat_countDown t.delay, toNat_countDown t.sound⟩
  · next hzero =>
    have hdvd : ¬ cyclesPerTick.toNat ∣ t.phase.toNat + 1 := by
      intro hdvd
      rw [Nat.mod_eq_zero_of_dvd hdvd] at hphase
      exact hzero (UInt32.toNat_inj.1 hphase)
    rw [if_neg hdvd, if_neg hdvd]
    exact ⟨rfl, rfl⟩

namespace Machine

/-! ## One cycle -/

theorem timers_execute_of_ne (m : Machine) {i : Instruction} (hdelay : ∀ x, i ≠ .setDelay x)
    (hsound : ∀ x, i ≠ .setSound x) : (m.execute i).timers = m.timers := by
  cases huse : i.usesTimers with
  | false => exact timers_execute m huse
  | true =>
    cases i with
    | readDelay => rfl
    | setDelay x => exact absurd rfl (hdelay x)
    | setSound x => exact absurd rfl (hsound x)
    | _ => cases huse

theorem delayWrite?_of_setDelay {m : Machine} {x : Register}
    (h : m.nextInstruction = .setDelay x) : m.delayWrite? = some (m.readRegister x) := by
  obtain ⟨hfirst, hlast, rfl⟩ := Instruction.ofWord_setDelay_iff.1 h
  exact if_pos ⟨hfirst, hlast⟩

theorem delayWrite?_of_ne {m : Machine} (h : ∀ x, m.nextInstruction ≠ .setDelay x) :
    m.delayWrite? = none :=
  if_neg fun hword => h _ (Instruction.ofWord_setDelay_iff.2 ⟨hword.1, hword.2, rfl⟩)

theorem soundWrite?_of_setSound {m : Machine} {x : Register}
    (h : m.nextInstruction = .setSound x) :
    m.soundWrite? = if 1 < m.readRegister x then some (m.readRegister x) else none := by
  obtain ⟨hfirst, hlast, rfl⟩ := Instruction.ofWord_setSound_iff.1 h
  simp only [soundWrite?, hfirst, hlast, true_and]

theorem soundWrite?_of_ne {m : Machine} (h : ∀ x, m.nextInstruction ≠ .setSound x) :
    m.soundWrite? = none :=
  if_neg fun hword => h _ (Instruction.ofWord_setSound_iff.2 ⟨hword.1, hword.2.1, rfl⟩)

/-- The timers once the next cycle has written to them, before it counts. -/
def writtenTimers (m : Machine) : Timers :=
  { m.timers with
    delay := m.delayWrite?.getD m.timers.delay
    sound := m.soundWrite?.getD m.timers.sound }

/-- An instruction writes to the timers what its word says, and nothing to the phase. -/
theorem timers_execute_next (m : Machine) :
    (m.skip.execute m.nextInstruction).timers = m.writtenTimers := by
  unfold writtenTimers
  by_cases hdelay : ∃ x, m.nextInstruction = .setDelay x
  · obtain ⟨x, hi⟩ := hdelay
    rw [delayWrite?_of_setDelay hi, soundWrite?_of_ne (by simp [hi]), hi]
    rfl
  by_cases hsound : ∃ x, m.nextInstruction = .setSound x
  · obtain ⟨x, hi⟩ := hsound
    have hexecute : (m.skip.execute (.setSound x)).timers =
        m.timers.setSound (m.readRegister x) := rfl
    rw [delayWrite?_of_ne (by simp [hi]), soundWrite?_of_setSound hi, hi, hexecute, Timers.setSound]
    split <;> rfl
  · rw [not_exists] at hdelay hsound
    rw [delayWrite?_of_ne hdelay, soundWrite?_of_ne hsound, timers_execute_of_ne _ hdelay hsound]
    rfl

theorem timers_cycle (m : Machine) :
    m.cycle.timers = m.writtenTimers.onCycle m.setup.cyclesPerTick := by
  have hsetup : (m.skip.execute m.nextInstruction).setup = m.setup := setup_execute _ _
  rw [← timers_execute_next, ← hsetup]
  rfl

/-! ## Any run -/

/-- The timers show what the log tells, and the phase counts its cycles. -/
structure KeepsTime (setup : Setup) (log : List Machine) (m : Machine) : Prop where
  setup_eq : m.setup = setup
  phase_eq : m.timers.phase.toNat = log.length % setup.cyclesPerTick.toNat
  delay_eq : m.timers.delay.toNat =
    reading setup.cyclesPerTick.toNat log.length (lastWrite? delayWrite? log)
  sound_eq : m.timers.sound.toNat =
    reading setup.cyclesPerTick.toNat log.length (lastWrite? soundWrite? log)

theorem keepsTime_powerOn (setup : Setup) : KeepsTime setup [] (powerOn setup) where
  setup_eq := rfl
  phase_eq := (Nat.zero_mod _).symm
  delay_eq := rfl
  sound_eq := rfl

theorem keepsTime_cycle {setup : Setup} {log : List Machine} {m : Machine}
    (h : KeepsTime setup log m) : KeepsTime setup (log ++ [m]) m.cycle := by
  obtain ⟨rfl, hphase, hdelay, hsound⟩ := h
  have hpos : 0 < m.setup.cyclesPerTick.toNat := m.setup.cyclesPerTick_pos
  have hcycle := timers_cycle m
  have hwritten : m.writtenTimers.phase.toNat = log.length % m.setup.cyclesPerTick.toNat := hphase
  have htick : m.writtenTimers.phase < m.setup.cyclesPerTick := by
    rw [UInt32.lt_iff_toNat_lt, hwritten]
    exact Nat.mod_lt _ hpos
  -- the tick ends where the number of the cycle is a multiple of its length
  have hdvd : m.setup.cyclesPerTick.toNat ∣ m.writtenTimers.phase.toNat + 1 ↔
      m.setup.cyclesPerTick.toNat ∣ log.length + 1 := by
    rw [hwritten, Nat.dvd_iff_mod_eq_zero, Nat.mod_add_mod, ← Nat.dvd_iff_mod_eq_zero]
  refine ⟨setup_step .cycle m, ?_, ?_, ?_⟩
  · rw [hcycle, Timers.toNat_phase_onCycle htick, hwritten, Nat.mod_add_mod, List.length_append,
      List.length_singleton]
  · rw [hcycle, (Timers.toNat_onCycle htick).1, reading_concat _ m hdelay]
    simp only [hdvd]
    rfl
  · rw [hcycle, (Timers.toNat_onCycle htick).2, reading_concat _ m hsound]
    simp only [hdvd]
    rfl

theorem keepsTime_step {setup : Setup} {log : List Machine} {m : Machine} (s : Step)
    (h : KeepsTime setup log m) : KeepsTime setup (m.logged log s) (m.step s) := by
  cases s with
  | cycle => exact keepsTime_cycle h
  | reset =>
    rw [← h.setup_eq]
    exact keepsTime_powerOn m.setup
  | load | hold | acknowledge | reseed =>
    exact ⟨h.setup_eq, h.phase_eq, h.delay_eq, h.sound_eq⟩

theorem keepsTime_through (setup : Setup) (steps : List Step) :
    KeepsTime setup ((powerOn setup).log steps) ((powerOn setup).through steps) :=
  log_induction (fun s _ _ h => keepsTime_step s h) (keepsTime_powerOn setup) steps

/-- A word FX18 whose register holds 0 or 1 does nothing but pass over itself. -/
theorem cycle_of_idle_setSound {m : Machine} (hfirst : m.nextWord.toNat / 4096 = 0xF)
    (hlast : m.nextWord.toNat % 256 = 0x18)
    (hvalue : m.readRegister (Instruction.fieldX m.nextWord) ≤ 1) :
    m.cycle = m.skip.countCycle := by
  have hi : m.nextInstruction = .setSound (Instruction.fieldX m.nextWord) :=
    Instruction.ofWord_setSound_iff.2 ⟨hfirst, hlast, rfl⟩
  have hskip : m.skip.timers.setSound (m.skip.readRegister (Instruction.fieldX m.nextWord)) =
      m.skip.timers := if_neg (UInt8.not_lt.2 hvalue)
  simp only [cycle, hi, execute, hskip]

/-- After any steps from power-on, `n` of them cycles since the last reset, and with `c` cycles to
the tick: each timer shows 0 if it was not written in these cycles, and otherwise the value last
written, in cycle `k` say, less `n / c - (k - 1) / c`, but never below 0. The phase is `n` modulo
`c`, whatever was written; and a write in a cycle that `c` divides loses one in the same cycle. Any
history of a host, with frames of whatever lengths, is made of such steps. And a word FX18 whose
register holds 0 or 1 has no effect, on the timers or elsewhere. -/
theorem timers_follow_log (setup : Setup) :
    (∀ steps : List Step,
      let m := (powerOn setup).through steps
      let log := (powerOn setup).log steps
      let c := setup.cyclesPerTick.toNat
      m.timers.delay.toNat = reading c log.length (lastWrite? delayWrite? log) ∧
      m.timers.sound.toNat = reading c log.length (lastWrite? soundWrite? log) ∧
      m.timers.phase.toNat = log.length % c ∧
      (c ∣ log.length + 1 →
        (∀ value, m.delayWrite? = some value → m.cycle.timers.delay.toNat = value.toNat - 1) ∧
        ∀ value, m.soundWrite? = some value → m.cycle.timers.sound.toNat = value.toNat - 1)) ∧
    (∀ history : List (Action ε),
      (powerOn setup).after history =
        (powerOn setup).through ((powerOn setup).stepsIn history)) ∧
    (∀ m : Machine, m.nextWord.toNat / 4096 = 0xF → m.nextWord.toNat % 256 = 0x18 →
      m.readRegister (Instruction.fieldX m.nextWord) ≤ 1 → m.cycle = m.skip.countCycle) := by
  refine ⟨?_, after_eq_through_stepsIn (powerOn setup), fun m => cycle_of_idle_setSound⟩
  intro steps m log c
  have h : KeepsTime setup log m := keepsTime_through setup steps
  refine ⟨h.delay_eq, h.sound_eq, h.phase_eq, ?_⟩
  intro hdvd
  constructor
  · intro value hvalue
    rw [(keepsTime_cycle h).delay_eq, reading_concat _ m h.delay_eq, if_pos hdvd, hvalue,
      Option.getD_some]
  · intro value hvalue
    rw [(keepsTime_cycle h).sound_eq, reading_concat _ m h.sound_eq, if_pos hdvd, hvalue,
      Option.getD_some]

/-- Three cycles to the tick, and a reset that begins a new count. Cycle 2 sets the delay timer to 5,
cycle 3 the sound timer, which loses one at once, and cycle 5 tries to set the sound timer to 1. -/
theorem timers_follow_log_tick :
    let setup : Setup := { cyclesPerTick := 3, cyclesPerTick_pos := by decide }
    let code : List UInt8 := [0x60, 0x05, 0xF0, 0x15, 0xF0, 0x18, 0x61, 0x01, 0xF1, 0x18]
    let steps (n : Nat) : List Step := [.cycle, .reset, .load code] ++ List.replicate n .cycle
    let m (n : Nat) : Machine := (powerOn setup).through (steps n)
    (m 6).timers.delay.toNat = 3 ∧ (m 6).timers.sound.toNat = 3 ∧
    (m 2).cycle.timers.sound.toNat = 4 ∧ (m 4).cycle = (m 4).skip.countCycle := by
  intro setup code steps m
  -- one evaluation for all, since each has to work out the memory at power-on
  have hruns : lastWrite? delayWrite? ((powerOn setup).log (steps 6)) = some (2, 5) ∧
      lastWrite? soundWrite? ((powerOn setup).log (steps 6)) = some (3, 5) ∧
      (m 2).soundWrite? = some 5 ∧
      (m 4).nextWord.toNat / 4096 = 0xF ∧ (m 4).nextWord.toNat % 256 = 0x18 ∧
      (m 4).readRegister (Instruction.fieldX (m 4).nextWord) ≤ 1 := by
    decide +kernel
  obtain ⟨hdelay, hsound, hwrite, hfirst, hlast, hvalue⟩ := hruns
  have htwo : ((powerOn setup).log (steps 2)).length = 2 := rfl
  have hsix : ((powerOn setup).log (steps 6)).length = 6 := rfl
  obtain ⟨hsteps, -, hidle⟩ := @timers_follow_log String setup
  obtain ⟨hdelay6, hsound6, -, -⟩ := hsteps (steps 6)
  obtain ⟨-, -, -, hsame⟩ := hsteps (steps 2)
  rw [hdelay, hsix] at hdelay6
  rw [hsound, hsix] at hsound6
  rw [htwo] at hsame
  exact ⟨hdelay6.trans (by decide), hsound6.trans (by decide), (hsame (by decide)).2 5 hwrite,
    hidle (m 4) hfirst hlast hvalue⟩

end Machine

end Chip8
