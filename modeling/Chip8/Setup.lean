/-!
# Setup

What is chosen once for a machine and survives every reset: how many cycles make a timer tick, and
the seed of the random stream.
-/

namespace Chip8

/-- The choices made before power-on: `Config`. Without a seed the host is free to choose one; a
machine that is powered on all the same uses the stream of seed 0. -/
structure Setup where
  cyclesPerTick : UInt32
  cyclesPerTick_pos : 0 < cyclesPerTick
  seed : Option UInt64 := none
deriving DecidableEq

namespace Setup

/-- Instructions executed in a second unless asked otherwise
(`DEFAULT_INSTRUCTIONS_PER_SECOND`). -/
def defaultInstructionRate : UInt32 := 600

/-- Timer ticks in a second unless asked otherwise (`DEFAULT_TIMER_HZ`). -/
def defaultTimerRate : UInt32 := 60

/-- Cycles in a tick at the given rates a second. -/
def ratio (instructionRate timerRate : UInt32) : UInt32 :=
  if timerRate = 0 then instructionRate else instructionRate / timerRate

/-- The setup for an instruction rate and a timer rate, at least one cycle to the tick
(`Config::from_rates`). -/
def ofRates (instructionRate timerRate : UInt32) : Setup :=
  if h : 0 < ratio instructionRate timerRate then
    { cyclesPerTick := ratio instructionRate timerRate, cyclesPerTick_pos := h }
  else { cyclesPerTick := 1, cyclesPerTick_pos := by decide }

/-- Ten cycles to the tick, unseeded. -/
def standard : Setup := ofRates defaultInstructionRate defaultTimerRate

/-- Model of `Config::with_seed`. -/
def withSeed (s : Setup) (seed : UInt64) : Setup := { s with seed := some seed }

end Setup

end Chip8
