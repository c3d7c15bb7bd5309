import Chip8.Play.Keyboard
import Chip8.Text.Rounded

/-!
# Measured rates

Frames and cycles are counted over windows of at least a second. When a window closes, the rates a
second are worked out from its totals and shown until the next one closes.

Results:
* `record_eq_none_iff`: a window closes exactly when a second has passed since it was opened.
-/

namespace Chip8.Play

/-- The shortest window: the second of `RATE_WINDOW`. -/
def windowTime : Time := 1000000000

/-- The totals of a closed window. -/
structure Window where
  frames : UInt32
  cycles : UInt64
  elapsed : Time
deriving DecidableEq

namespace Window

/-- The length of the window: whole seconds, and the nanoseconds left over as a fraction. -/
def seconds (w : Window) : Float :=
  (UInt64.ofNat (w.elapsed / 1000000000)).toFloat +
    (UInt64.ofNat (w.elapsed % 1000000000)).toFloat / 1000000000.0

def framesPerSecond (w : Window) : Float := w.frames.toFloat / w.seconds

def cyclesPerSecond (w : Window) : Float := w.cycles.toFloat / w.seconds

end Window

/-- The counts of the open window, and the rates of the last one that closed: `RateMonitor`. -/
structure RateMeter where
  opened : Time
  frames : UInt32
  cycles : UInt64
  framesPerSecond : Float
  cyclesPerSecond : Float

namespace RateMeter

/-- A window opens, and no rates are known yet (`RateMonitor::new`). -/
def new (now : Time) : RateMeter :=
  { opened := now, frames := 0, cycles := 0, framesPerSecond := 0, cyclesPerSecond := 0 }

/-- The open window as it would be if it closed at `now` with a frame of `cycles` cycles counted. -/
def windowAt (r : RateMeter) (now : Time) (cycles : UInt32) : Window :=
  { frames := r.frames + 1, cycles := r.cycles + cycles.toUInt64, elapsed := now - r.opened }

/-- Counts a frame of `cycles` cycles that ended at `now` (`RateMonitor::record`). Gives the window
that this closes. -/
def record (r : RateMeter) (now : Time) (cycles : UInt32) : Option Window × RateMeter :=
  let w := r.windowAt now cycles
  if w.elapsed < windowTime then (none, { r with frames := w.frames, cycles := w.cycles })
  else
    (some w,
      { opened := now, frames := 0, cycles := 0, framesPerSecond := w.framesPerSecond,
        cyclesPerSecond := w.cyclesPerSecond })

/-- The status shown to the user: both rates, and whether the player is paused (`status_line`). -/
def statusLine (r : RateMeter) (paused : Bool) : String :=
  Text.rounded r.framesPerSecond ++ " fps  " ++ Text.rounded r.cyclesPerSecond ++ " ips  [" ++
    (if paused then "paused" else "running") ++ "]"

theorem record_eq_none_iff (r : RateMeter) (now : Time) (cycles : UInt32) :
    (r.record now cycles).1 = none ↔ now - r.opened < windowTime := by
  by_cases h : now - r.opened < windowTime <;> simp [record, windowAt, h]

end RateMeter

end Chip8.Play
