import Chip8.Setup

/-!
# The timers

The delay and the sound timer count down together, once in as many cycles as make a tick. Setting a
timer never moves the beginning of the next tick.

Results:
* `toNat_countDown`: counting down stops at zero.
* `toNat_phase_onCycle`: the phase counts cycles modulo the length of a tick.
* `onCycles_eq_after`: what many cycles do to the timers, without counting them one by one.
-/

namespace Chip8

/-- Both timers, and how many cycles of the current tick have passed: `Timers`, of which the length
of a tick is in the setup. -/
structure Timers where
  delay : UInt8
  sound : UInt8
  phase : UInt32
deriving DecidableEq

namespace Timers

def initial : Timers := { delay := 0, sound := 0, phase := 0 }

/-- One less, but never below zero. -/
def countDown (value : UInt8) : UInt8 := if value = 0 then 0 else value - 1

/-- Counts one cycle (`Timers::on_cycle`); the cycle that completes a tick of `cyclesPerTick` cycles
lets both timers count down. -/
def onCycle (cyclesPerTick : UInt32) (t : Timers) : Timers :=
  let phase := (t.phase + 1) % cyclesPerTick
  if phase = 0 then { delay := countDown t.delay, sound := countDown t.sound, phase := phase }
  else { t with phase := phase }

/-- The sound timer takes no value below 2 (`Timers::set_sound`). -/
def setSound (t : Timers) (value : UInt8) : Timers :=
  if 1 < value then { t with sound := value } else t

def setDelay (t : Timers) (value : UInt8) : Timers := { t with delay := value }

/-- The tone sounds while the sound timer runs (`is_sound_active`). -/
def isSounding (t : Timers) : Bool := 0 < t.sound

/-- `n` cycles, one after the other. -/
def onCycles (cyclesPerTick : UInt32) : (n : Nat) → Timers → Timers
  | 0, t => t
  | n + 1, t => onCycles cyclesPerTick n (t.onCycle cyclesPerTick)

/-- A timer after so many ticks. -/
def lowered (value : UInt8) (ticks : Nat) : UInt8 := UInt8.ofNat (value.toNat - ticks)

/-- The timers `n` cycles later. -/
def after (cyclesPerTick : UInt32) (n : Nat) (t : Timers) : Timers :=
  let counted := t.phase.toNat + n
  let ticks := counted / cyclesPerTick.toNat
  { delay := lowered t.delay ticks
    sound := lowered t.sound ticks
    phase := UInt32.ofNat (counted % cyclesPerTick.toNat) }

theorem toNat_countDown (value : UInt8) : (countDown value).toNat = value.toNat - 1 := by
  unfold countDown
  split
  · next h => simp [h]
  · next h =>
    have : 1 ≤ value := by
      rw [UInt8.le_iff_toNat_le]
      have : value.toNat ≠ 0 := fun h0 => h (UInt8.toNat_inj.1 h0)
      simp only [UInt8.toNat_one]
      omega
    rw [UInt8.toNat_sub_of_le _ _ this]
    rfl

theorem phase_onCycle (cyclesPerTick : UInt32) (t : Timers) :
    (t.onCycle cyclesPerTick).phase = (t.phase + 1) % cyclesPerTick := by
  unfold onCycle
  dsimp only
  split <;> rfl

theorem delay_onCycle (cyclesPerTick : UInt32) (t : Timers) :
    (t.onCycle cyclesPerTick).delay =
      if (t.phase + 1) % cyclesPerTick = 0 then countDown t.delay else t.delay := by
  unfold onCycle
  dsimp only
  split <;> rfl

theorem sound_onCycle (cyclesPerTick : UInt32) (t : Timers) :
    (t.onCycle cyclesPerTick).sound =
      if (t.phase + 1) % cyclesPerTick = 0 then countDown t.sound else t.sound := by
  unfold onCycle
  dsimp only
  split <;> rfl

/-- Below the length of a tick the phase moves on by one and returns to zero at the end. -/
theorem toNat_phase_onCycle {cyclesPerTick : UInt32} {t : Timers} (h : t.phase < cyclesPerTick) :
    (t.onCycle cyclesPerTick).phase.toNat = (t.phase.toNat + 1) % cyclesPerTick.toNat := by
  rw [UInt32.lt_iff_toNat_lt] at h
  have := cyclesPerTick.toNat_lt
  have hsum : (t.phase.toNat + 1) % 2 ^ 32 = t.phase.toNat + 1 := Nat.mod_eq_of_lt (by omega)
  rw [phase_onCycle, UInt32.toNat_mod, UInt32.toNat_add, UInt32.toNat_one, hsum]

/-! ## Many cycles -/

theorem lowered_zero (value : UInt8) : lowered value 0 = value := by simp [lowered]

/-- A tick and then `ticks` more. -/
theorem lowered_countDown (value : UInt8) (ticks : Nat) :
    lowered (countDown value) ticks = lowered value (ticks + 1) := by
  rw [lowered, lowered, toNat_countDown,
    show value.toNat - 1 - ticks = value.toNat - (ticks + 1) by omega]

theorem after_zero {cyclesPerTick : UInt32} {t : Timers} (h : t.phase < cyclesPerTick) :
    t.after cyclesPerTick 0 = t := by
  rw [UInt32.lt_iff_toNat_lt] at h
  simp [after, Nat.div_eq_of_lt h, Nat.mod_eq_of_lt h, lowered_zero]

/-- The cycles after the first one are counted on from the timers that it leaves. -/
theorem after_onCycle {cyclesPerTick : UInt32} {t : Timers} (h : t.phase < cyclesPerTick)
    (n : Nat) :
    (t.onCycle cyclesPerTick).after cyclesPerTick n = t.after cyclesPerTick (n + 1) := by
  have hphase := toNat_phase_onCycle h
  rw [UInt32.lt_iff_toNat_lt] at h
  by_cases hlast : t.phase.toNat + 1 = cyclesPerTick.toNat
  · have hzero : (t.onCycle cyclesPerTick).phase = 0 := by
      rw [hlast, Nat.mod_self] at hphase
      exact UInt32.toNat_inj.1 hphase
    have hsum : t.phase.toNat + (n + 1) = n + cyclesPerTick.toNat := by omega
    have hpos : 0 < cyclesPerTick.toNat := by omega
    rw [phase_onCycle] at hzero
    simp only [after, onCycle, hzero, if_true, hsum, Nat.add_div_right n hpos, Nat.add_mod_right,
      lowered_countDown, UInt32.toNat_zero, Nat.zero_add]
  · rw [Nat.mod_eq_of_lt (by omega)] at hphase
    have hne : (t.phase + 1) % cyclesPerTick ≠ 0 := by
      intro hzero
      rw [phase_onCycle, hzero] at hphase
      simp at hphase
    have hsum : t.phase.toNat + 1 + n = t.phase.toNat + (n + 1) := by omega
    rw [phase_onCycle] at hphase
    simp only [after, onCycle, if_neg hne, hphase, hsum]

theorem phase_onCycle_lt {cyclesPerTick : UInt32} {t : Timers} (h : t.phase < cyclesPerTick) :
    (t.onCycle cyclesPerTick).phase < cyclesPerTick := by
  have hphase := toNat_phase_onCycle h
  rw [UInt32.lt_iff_toNat_lt] at h ⊢
  rw [hphase]
  exact Nat.mod_lt _ (by omega)

/-- Cycles need not be counted one by one. -/
theorem onCycles_eq_after {cyclesPerTick : UInt32} {t : Timers} (h : t.phase < cyclesPerTick)
    (n : Nat) : t.onCycles cyclesPerTick n = t.after cyclesPerTick n := by
  induction n generalizing t with
  | zero => exact (after_zero h).symm
  | succ n ih => exact (ih (phase_onCycle_lt h)).trans (after_onCycle h n)

end Timers

end Chip8
