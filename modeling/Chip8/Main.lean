import Chip8.Play.Session

/-!
# The program

Reads the command line, looks at the file system, and plays on the terminal. The terminal is
expected to hand over keys as they are pressed and to leave the echo off; its size is taken from
the environment.
-/

namespace Chip8

open Play Terminal

/-! ## Files -/

/-- Why a regular file could not be read, with the system's number for it. -/
def reasonOf : IO.Error → String
  | .permissionDenied _ code _ => "Permission denied (os error " ++ toString code ++ ")"
  | .hardwareFault code _ => "Input/output error (os error " ++ toString code ++ ")"
  | e => toString e

/-- Whether there is a regular file at a path. -/
def isRegularFile (path : String) : IO Bool := do
  try
    let found ← (← IO.FS.realPath path).metadata
    return found.type == .file
  catch _ => return false

/-- What the file system has at a path. -/
def lookUp (path : String) : IO ProgramFile := do
  unless ← isRegularFile path do return .missing
  try
    let bytes ← IO.FS.readBinFile path
    return .contents bytes.toList
  catch e => return .unreadable (reasonOf e)

/-! ## Terminal -/

/-- The events that a run of bytes from the terminal stands for. An escape that opens a sequence
takes the sequence with it. -/
def eventsOf : List UInt8 → List Event
  | [] => []
  | 0x1B :: 0x5B :: _ :: rest => .key .other .press :: eventsOf rest
  | 0x1B :: rest => .key .escape .press :: eventsOf rest
  | b :: rest => .key (.char (Char.ofNat b.toNat)) .press :: eventsOf rest

/-- Collects what the terminal sends. -/
partial def collect (input : IO.FS.Stream) (arrived : IO.Ref (List UInt8)) : IO Unit := do
  let bytes ← input.read 1
  unless bytes.isEmpty do
    arrived.modify (· ++ bytes.toList)
    collect input arrived

/-- Selects a colour. -/
def colourCode : Colour → String
  | .plain => "\x1b[39m"
  | .white => "\x1b[37m"
  | .yellow => "\x1b[33m"

/-- The symbols of a row in their colours. The columns that a symbol covers are passed over. -/
def rowCode : (covered : Nat) → List Tile → String
  | _, [] => ""
  | 0, t :: rest => colourCode t.colour ++ String.ofList t.chars ++ rowCode (t.width - 1) rest
  | covered + 1, _ :: rest => rowCode covered rest

/-- Paints a drawing from the upper left corner on. -/
def paint (g : Grid Tile) : IO Unit := do
  let out ← IO.getStdout
  out.putStr ("\x1b[H" ++ "\r\n".intercalate (g.toLists.map (rowCode 0)) ++ colourCode .plain)
  out.flush

def environmentNumber (name : String) (usual : Nat) : IO Nat := do
  return ((← IO.getEnv name).bind String.toNat?).getD usual

/-! ## Playing -/

/-- Whether a turn with these events may want the program's file. -/
def asksForReboot (events : List Event) : Bool :=
  events.any fun event =>
    match event with
    | .key code .press => code.control? == some .reboot
    | _ => false

/-- Turns until the player ends; the answer is the exit code. -/
partial def turns (p : Player) (frameTime : Time) (arrived : IO.Ref (List UInt8)) : IO UInt32 := do
  let began ← IO.monoNanosNow
  let events := eventsOf (← arrived.modifyGet fun bytes => (bytes, []))
  let file ← if asksForReboot events then lookUp p.path else pure .missing
  let recordedAt ← IO.monoNanosNow
  let moment : Moment String :=
    { polledAt := began, events := events, recordedAt := recordedAt
      atControl := fun _ => { file := file } }
  let turn := p.turn moment
  for line in turn.trace do
    IO.eprintln line
  if turn.player.view.surface.drawn != p.view.surface.drawn then
    paint turn.player.view.surface.drawn
  match turn.ended with
  | some (.ok _) => return 0
  | some (.error failure) =>
    IO.eprint failure.report.render
    return 1
  | none =>
    let spent := (← IO.monoNanosNow) - began
    IO.sleep (UInt32.ofNat ((frameTime - spent) / 1000000))
    turns turn.player frameTime arrived

def play (o : CommandLine.Options) (machine : Machine) : IO UInt32 := do
  let width ← environmentNumber "COLUMNS" 80
  let height ← environmentNumber "LINES" 24
  let arrived ← IO.mkRef ([] : List UInt8)
  let _ ← IO.asTask (collect (← IO.getStdin) arrived) Task.Priority.dedicated
  let (player, _) := Player.start machine (View.new width height (titleOf o.program)) false
    (cyclesPerFrame o.instructionRate o.frameRate) o.trace o.program (← IO.monoNanosNow)
    (none : Option (DisplayFailure String))
  paint player.view.surface.drawn
  turns player (frameTimeOf o.frameRate) arrived

/-- The options with a seed: the one asked for, or one of chance. -/
def withSomeSeed (o : CommandLine.Options) : IO CommandLine.Options := do
  match o.seed with
  | some _ => return o
  | none =>
    let bytes ← IO.getRandomBytes 8
    let seed := bytes.toList.foldl (fun n b => 256 * n + b.toNat) 0
    return { o with seed := some (UInt64.ofNat seed) }

/-- Does what a command line asks for; the answer is the exit code. -/
def runProgram (words : List String) : IO UInt32 := do
  let outcome ← match CommandLine.parse words with
    | .ok (.run o) =>
      let o ← withSomeSeed o
      pure (CommandLine.runOptions o (← lookUp o.program))
    | _ => pure (CommandLine.run words fun _ => .missing)
  match outcome with
  | .play o machine => play o machine
  | .finished ending =>
    let output := ending.output
    IO.print output.stdout
    IO.eprint output.stderr
    return UInt32.ofNat output.code

end Chip8

def main (words : List String) : IO UInt32 := Chip8.runProgram words
