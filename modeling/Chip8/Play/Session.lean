import Chip8.CommandLine.Run
import Chip8.Play.Player
import Chip8.Text.Stem

/-!
# Sessions

A player together with a clock and a program file, driven by what happens to it: events arrive and
the file changes. After each of these the player is left to itself until it rests, for a tenth of a
second at least and a fifth of a second at most; and then for another second at most if lines of its
trace are still wanted.
-/

namespace Chip8.Play

open CommandLine (Options)
open Terminal (View)

/-- The shortest time for which the player is left to itself after something has happened: a tenth
of a second. -/
def quietTime : Time := 100000000

/-- The longest time for which it is left to itself to come to rest: a fifth of a second. -/
def settleTime : Time := 200000000

/-- How much longer the player may take to write the lines of the trace that are wanted: a
second. -/
def traceTime : Time := 1000000000

/-- The time from one turn to the next at a number of frames a second: the `frame_duration` of
`main_loop`. -/
def frameTimeOf (frameRate : UInt32) : Time := max 1 (1000000000 / (max 1 frameRate).toNat)

/-- The shortest time of a turn: five microseconds. -/
def shortestTurn : Time := 5000

/-- The work of a turn: a tenth of a microsecond for each cycle, and half a millisecond for a
picture. -/
def workTime (cycles : UInt32) (shown : Bool) : Time :=
  100 * cycles.toNat + if shown then 500000 else 0

/-- The title of the screen: the `rom_stem` of `Emulator::run`. -/
def titleOf (path : String) : String := (Text.fileStem? path).getD "Unknown ROM"

/-- A player in a world of its own. -/
structure Session where
  player : Player
  now : Time
  /-- The time from one turn to the next, if the work of the turn takes no longer. -/
  frameTime : Time
  file : ProgramFile
  /-- The first lines of the trace. -/
  trace : List String
  /-- How many more lines of the trace are kept. -/
  traceRoom : Nat
  ended : Option (Ending String)

namespace Session

/-- A session that has not had its first turn (`Emulator::run` up to its `main_loop`). -/
def start (o : Options) (machine : Machine) (file : ProgramFile) (width height : Nat)
    (releasesReported : Bool) (traceRoom : Nat) : Session :=
  let (player, ended) := Player.start machine (View.new width height (titleOf o.program))
    releasesReported (cyclesPerFrame o.instructionRate o.frameRate) o.trace o.program 0 none
  { player := player
    now := 0
    frameTime := max shortestTurn (frameTimeOf o.frameRate)
    file := file
    trace := []
    traceRoom := traceRoom
    ended := ended }

/-- Whether further lines of the trace are wanted. -/
def wantsTrace (s : Session) : Bool := s.player.tracing && 0 < s.traceRoom

/-- One turn at the present time, with the events that have arrived. Lines of the trace are written
only as long as they are wanted. -/
def turn (s : Session) (events : List Event) : Session :=
  let turn := { s.player with tracing := s.wantsTrace }.turn
    { polledAt := s.now, events := events, recordedAt := s.now
      atControl := fun _ => { file := s.file } : Moment String }
  let kept := turn.trace.take s.traceRoom
  { s with
    player := turn.player
    now := s.now + max s.frameTime (workTime s.player.cyclesToRun turn.shown.isSome)
    trace := s.trace ++ kept
    traceRoom := s.traceRoom - kept.length
    ended := turn.ended }

/-- Turns without events until something is the case or the player ends, `limit` at most. -/
def turnsUntil (done : Session → Bool) : (limit : Nat) → Session → Session
  | 0, s => s
  | limit + 1, s => if s.ended.isSome || done s then s else turnsUntil done limit (s.turn [])

/-- The longest round in which a machine is seen to rest. -/
def longestRest : Nat := 256

/-- The picture has been shown, and stays as it is until the keys change. -/
def isResting (s : Session) : Bool :=
  !s.player.machine.isDue && (s.player.paused || (s.player.machine.round? longestRest).isSome)

/-- The player has been left to itself for long enough since something has happened. -/
def hasSettled (happened : Time) (s : Session) : Bool :=
  happened + settleTime ≤ s.now || (happened + quietTime ≤ s.now && s.isResting)

/-- Lets events arrive and the player settle. -/
def settle (s : Session) (events : List Event) : Session :=
  if s.ended.isSome then s
  else
    let settled := (s.turn events).turnsUntil (hasSettled s.now) (settleTime / shortestTurn)
    settled.turnsUntil (fun later => !later.wantsTrace || settled.now + traceTime ≤ later.now)
      (traceTime / shortestTurn)

/-- Changes the file and lets the player settle. -/
def replaceFile (s : Session) (file : ProgramFile) : Session := { s with file := file }.settle []

/-- The exit code of the player, once it has ended. -/
def exitCode? (s : Session) : Option Nat :=
  s.ended.map fun ending =>
    match ending with
    | .ok _ => 0
    | .error _ => 1

/-- The report of the error that ended the player, if one did. -/
def report? (s : Session) : Option Report :=
  match s.ended with
  | some (.error failure) => some failure.report
  | _ => none

end Session

end Chip8.Play
