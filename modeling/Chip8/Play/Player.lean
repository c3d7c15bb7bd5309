import Chip8.Frame
import Chip8.Play.RateMeter
import Chip8.Program
import Chip8.Terminal.View

/-!
# The player

The player runs one frame after the other and in between obeys the controls that were pressed. One
turn of it is a frame, the controls in the order in which they came, and the count of the rate
meter. What the world brings to a turn is a value, so a turn is a function. Whatever the player asks
of the world may fail at any time: the keyboard, the trace, each drawing on the display, each
reading of the program's file; and then the player ends there.

While paused a turn still asks for the keys and shows the picture, but runs no cycle.

Results:
* `cyclesToRun_of_paused`: a paused turn runs no cycle.
* `snd_showStatus_eq_none_iff`: a status ends the player exactly if the display fails.
-/

namespace Chip8.Play

open Terminal (Surface View)

/-- The player between two turns: what `main_loop` keeps from one pass of its loop to the next. -/
structure Player where
  machine : Machine
  keyboard : Keyboard
  view : View
  meter : RateMeter
  paused : Bool
  /-- Cycles in a frame while the player runs. -/
  cyclesPerFrame : UInt32
  /-- Whether executed instructions are written out. -/
  tracing : Bool
  /-- Where the program came from; a reboot loads it again from there. -/
  path : String

/-- A display that has not taken what it was given, `ε` being its errors. -/
structure DisplayFailure (ε : Type) where
  error : ε
  /-- What is on the terminal then. Any part of the drawing may have got there. -/
  left : Surface

/-- What a control meets with when it is obeyed. -/
structure Circumstance (ε : Type) where
  /-- What is at the program's path. -/
  file : ProgramFile
  displayFailure : Option (DisplayFailure ε) := none

/-- What the world brings to a turn, `ε` being the errors of keyboard, display and trace. -/
structure Moment (ε : Type) where
  polledAt : Time
  /-- The events that are read, of those that have arrived since the last turn. -/
  events : List Event
  /-- What goes wrong after them. -/
  inputFailure : Option ε := none
  /-- How many trace lines can be written in this turn, and what goes wrong after them. -/
  traceLimit : Option (Nat × ε) := none
  /-- The failure of the display when it is given the picture of the frame. -/
  pictureFailure : Option (DisplayFailure ε) := none
  /-- What each of the waiting controls meets with, the first one having number 0. -/
  atControl : Nat → Circumstance ε
  recordedAt : Time
  /-- The failure of the display when it is given the status with new rates. -/
  ratesFailure : Option (DisplayFailure ε) := none

/-- Why the player ended otherwise than by being told to. -/
inductive Failure (ε : Type)
  | host (error : ε)
  | reload (path : String) (cause : LoadError)

/-- How the player ended. -/
abbrev Ending (ε : Type) := Except (Failure ε) Unit

/-- What came of a turn. -/
structure Turn (ε : Type) where
  player : Player
  /-- The picture that the display took. -/
  shown : Option Screen
  /-- The trace lines of the frame. -/
  trace : List String
  /-- How the player ended, if it did. -/
  ended : Option (Ending ε) := none

/-- The number of cycles in a frame for the rates of instructions and frames a second: the
`cycles_per_frame` of `main_loop`. -/
def cyclesPerFrame (instructionRate frameRate : UInt32) : UInt32 :=
  max 1 (max 1 instructionRate / max 1 frameRate)

variable {ε : Type}

/-- A view that was given to the display to draw: a display that fails keeps the title, the picture
and the status in it, but not the drawing. -/
def drawnView (view : View) : Option (DisplayFailure ε) → View
  | none => view
  | some failure => { view with surface := failure.left }

namespace Player

/-- Gives the display a view to draw. A display that fails ends the player. -/
def draw (p : Player) (view : View) (failure : Option (DisplayFailure ε)) :
    Player × Option (Ending ε) :=
  ({ p with view := drawnView view failure }, failure.map fun f => .error (.host f.error))

/-- Shows the status as it is now: `set_status` with a `status_line`. -/
def showStatus (p : Player) (failure : Option (DisplayFailure ε)) : Player × Option (Ending ε) :=
  p.draw (p.view.setStatus (p.meter.statusLine p.paused)) failure

/-- The player before its first turn, with its status given to the display: `main_loop` up to its
loop. -/
def start (machine : Machine) (view : View) (releasesReported : Bool) (cyclesPerFrame : UInt32)
    (tracing : Bool) (path : String) (now : Time) (failure : Option (DisplayFailure ε)) :
    Player × Option (Ending ε) :=
  { machine := machine
    keyboard := Keyboard.new releasesReported
    view := view
    meter := RateMeter.new now
    paused := false
    cyclesPerFrame := cyclesPerFrame
    tracing := tracing
    path := path : Player }.showStatus failure

/-- The cycles of the next frame. -/
def cyclesToRun (p : Player) : UInt32 := if p.paused then 0 else p.cyclesPerFrame

/-- Obeys one control, by the three cases of `main_loop`. Quitting empties the screen and ends the
player. A pause is turned over and shown. A reboot whose program cannot be loaded ends the player
with the error of `reboot`. -/
def obeyOne (p : Player) : Control × Circumstance ε → Player × Option (Ending ε)
  | (.quit, c) =>
    let (cleared, failed) := p.draw p.view.clear c.displayFailure
    (cleared, some (failed.getD (.ok ())))
  | (.pause, c) => { p with paused := !p.paused }.showStatus c.displayFailure
  | (.reboot, c) =>
    match p.machine.reboot p.path c.file with
    | (machine, .ok _) => ({ p with machine := machine }, none)
    | (machine, .error e) => ({ p with machine := machine }, some (.error (.reload p.path e)))

/-- Obeys controls from the first one on, up to one that ends the player; those after it are
forgotten. This is the loop of `main_loop` over `drain_controls`. -/
def obey : List (Control × Circumstance ε) → Player → Player × Option (Ending ε)
  | [], p => (p, none)
  | c :: rest, p =>
    match p.obeyOne c with
    | (next, none) => obey rest next
    | ended => ended

/-- Counts a frame of `cycles` cycles (`record`), and shows the new rates if that closes a
window. -/
def measure (p : Player) (now : Time) (cycles : UInt32) (failure : Option (DisplayFailure ε)) :
    Player × Option (Ending ε) :=
  match p.meter.record now cycles with
  | (some _, meter) => { p with meter := meter }.showStatus failure
  | (none, meter) => ({ p with meter := meter }, none)

/-- The keyboard after the events of a moment, and the keys it reports. -/
def poll (p : Player) (w : Moment ε) : Except ε (Vector Bool 16) × Keyboard :=
  let polled := p.keyboard.poll w.polledAt w.events
  match w.inputFailure with
  | none => (.ok polled.1, polled.2)
  | some e => (.error e, polled.2)

/-- The host of the frame of a turn. -/
def host (p : Player) (w : Moment ε) : Host ε :=
  { keys := (p.poll w).1
    displayFailure := w.pictureFailure.map DisplayFailure.error
    trace := if p.tracing then some { limit := w.traceLimit } else none }

/-- The frame of a turn: `run_frame` as `main_loop` calls it. -/
def frame (p : Player) (w : Moment ε) : Frame ε :=
  Frame.run p.machine p.cyclesToRun.toNat (p.host w)

/-- The player after the frame of a turn: the display has been given the picture if there was
one. -/
def afterFrame (p : Player) (w : Moment ε) : Player :=
  let frame := p.frame w
  { p with
    machine := frame.machine
    keyboard := (p.poll w).2
    view := match frame.offered with
      | [] => p.view
      | screen :: _ => drawnView (p.view.present screen.bitmap) w.pictureFailure }

/-- The controls that wait in a turn, each with what it meets with. -/
def batch (p : Player) (w : Moment ε) : List (Control × Circumstance ε) :=
  (p.poll w).2.controls.zipIdx.map fun (control, i) => (control, w.atControl i)

/-- The player after the frame of a turn, when it has taken the waiting controls. -/
def drained (p : Player) (w : Moment ε) : Player :=
  { p.afterFrame w with keyboard := (p.poll w).2.drain.2 }

/-- What a turn does after its frame: the controls, and if none of them ends the player the
rates. -/
def conclude (p : Player) (w : Moment ε) : Player × Option (Ending ε) :=
  match obey (p.batch w) (p.drained w) with
  | (obeyed, none) => obeyed.measure w.recordedAt p.cyclesToRun w.ratesFailure
  | ended => ended

/-- One turn: the frame, the controls, the rates, which is one pass of the loop in `main_loop`. A
frame that fails ends the player at once. -/
def turn (p : Player) (w : Moment ε) : Turn ε :=
  let frame := p.frame w
  let left : Player × Option (Ending ε) :=
    match frame.result with
    | .error e => (p.afterFrame w, some (.error (.host e)))
    | .ok _ => p.conclude w
  { player := left.1, shown := frame.shown, trace := frame.traceLines, ended := left.2 }

theorem cyclesToRun_of_paused {p : Player} (h : p.paused = true) : p.cyclesToRun = 0 := by
  simp [cyclesToRun, h]

theorem snd_showStatus_eq_none_iff (p : Player) (failure : Option (DisplayFailure ε)) :
    (p.showStatus failure).2 = none ↔ failure = none := by
  rw [showStatus, draw, Option.map_eq_none_iff]

end Player

/-! ## Reports -/

/-- The report of a player that failed, for hosts whose errors are messages. -/
def Failure.report : Failure String → Report
  | .host message => { message := message }
  | .reload path cause => Machine.rebootReport path cause

end Chip8.Play
