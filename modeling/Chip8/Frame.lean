import Chip8.Machine.Run

/-!
# Frames

A frame is what the host does with the machine at a time: latch the keys, run some cycles, show the
picture if it is due, and set the tone. The collaborators of a frame are values that say what they
will answer, so a frame is a function; any of them but the tone may fail, and then the frame ends
there and leaves the machine as far as it came.

Results:
* `run_of_keys_error`: without keys nothing happens.
* `runCycles_none`: without a trace, running cycles is `Machine.cycles`.
-/

namespace Chip8

/-- Where trace lines go: the `trace` of `run_frame`. The lines taken so far are kept, the latest
one first. -/
structure TraceSink (ε : Type) where
  taken : List String := []
  /-- How many more lines are taken, and what goes wrong after them. -/
  limit : Option (Nat × ε) := none

namespace TraceSink

variable {ε : Type}

/-- Takes a line, or fails and takes nothing. -/
def write (t : TraceSink ε) (line : String) : Except ε (TraceSink ε) :=
  match t.limit with
  | none => .ok { t with taken := line :: t.taken }
  | some (0, e) => .error e
  | some (left + 1, e) => .ok { taken := line :: t.taken, limit := some (left, e) }

/-- The lines taken, in the order in which they came. -/
def lines (t : TraceSink ε) : List String := t.taken.reverse

end TraceSink

/-- What the collaborators of a frame will answer, `ε` being the errors they can have: the
`InputSource`, the `DisplaySink` and the `trace` of `run_frame`. -/
structure Host (ε : Type) where
  /-- The keys that are down when the frame begins. -/
  keys : Except ε (Vector Bool 16)
  /-- The failure of the display when it is shown a picture, if it fails. -/
  displayFailure : Option ε := none
  trace : Option (TraceSink ε) := none

/-- What came of a frame: what `run_frame` returns, and what its collaborators were given. -/
structure Frame (ε : Type) where
  machine : Machine
  result : Except ε Unit
  /-- The pictures that the display was asked to show, whether or not it took them. -/
  offered : List Screen := []
  /-- The picture that the display took. -/
  shown : Option Screen := none
  tone : Option Bool := none
  trace : Option (TraceSink ε) := none

namespace Frame

variable {ε : Type}

/-- The outcome of running the cycles of a frame. -/
structure Progress (ε : Type) where
  machine : Machine
  trace : Option (TraceSink ε)
  failure : Option ε := none

/-- Runs `n` cycles, each after its line has been taken: the loop of `run_frame`. At the first line
that is not taken it stops before the cycle. -/
def runTraced : (n : Nat) → Machine → TraceSink ε → Progress ε
  | 0, m, sink => { machine := m, trace := some sink }
  | n + 1, m, sink =>
    match sink.write m.traceLine with
    | .error e => { machine := m, trace := some sink, failure := some e }
    | .ok sink => runTraced n m.cycle sink

/-- Runs `n` cycles, with a trace or without. -/
def runCycles (n : Nat) (m : Machine) : Option (TraceSink ε) → Progress ε
  | none => { machine := m.run n, trace := none }
  | some sink => runTraced n m sink

/-- Shows the picture if it is due, and sets the tone once that has succeeded. -/
def finish (m : Machine) (trace : Option (TraceSink ε)) (displayFailure : Option ε) : Frame ε :=
  if m.isDue then
    match displayFailure with
    | some e => { machine := m, result := .error e, offered := [m.screen], trace := trace }
    | none =>
      { machine := m.acknowledge, result := .ok (), offered := [m.screen], shown := some m.screen,
        tone := some m.isSounding, trace := trace }
  else { machine := m, result := .ok (), tone := some m.isSounding, trace := trace }

/-- One frame of `n` cycles (`run_frame`). -/
def run (m : Machine) (n : Nat) (host : Host ε) : Frame ε :=
  match host.keys with
  | .error e => { machine := m, result := .error e, trace := host.trace }
  | .ok keys =>
    let progress := runCycles n { m with keypad := { keys := keys } } host.trace
    match progress.failure with
    | some e => { machine := progress.machine, result := .error e, trace := progress.trace }
    | none => finish progress.machine progress.trace host.displayFailure

/-- The trace lines that were taken, in order. -/
def traceLines (f : Frame ε) : List String :=
  match f.trace with
  | none => []
  | some sink => sink.lines

theorem run_of_keys_error (m : Machine) (n : Nat) {host : Host ε} {e : ε}
    (h : host.keys = .error e) :
    run m n host = { machine := m, result := .error e, trace := host.trace } := by
  simp [run, h]

theorem runCycles_none (n : Nat) (m : Machine) :
    (runCycles n m none : Progress ε) = { machine := m.cycles n, trace := none } := by
  simp [runCycles]

end Frame

end Chip8
