import Chip8.CommandLine.Arguments
import Chip8.Listing
import Chip8.Program

/-!
# Running a command line

What a command line leads to: the player with a loaded machine, or an output and nothing more. The
file system is given as a function from paths.

Results:
* `run_listing`: with the flag for it, the listing of the loaded program is printed.
-/

namespace Chip8.CommandLine

/-- How a run without the player comes out. -/
inductive Ending
  /-- The command line is not understood. -/
  | refused (error : UsageError)
  /-- The program could not be loaded. -/
  | failed (report : Report)
  /-- A text is printed, and that is all. -/
  | printed (text : String)

/-- What a run leaves behind. -/
structure Output where
  code : Nat
  stdout : String := ""
  stderr : String := ""
deriving DecidableEq

/-- The exit code and the texts of a run without the player. -/
def Ending.output : Ending → Output
  | refused error => { code := 2, stderr := "error: " ++ error.message ++ "\n" }
  | failed report => { code := 1, stderr := report.render }
  | printed text => { code := 0, stdout := text }

inductive Outcome
  | finished (ending : Ending)
  /-- The player has to be started. -/
  | play (options : Options) (machine : Machine)

/-- The answer to a request for the version. -/
def versionText : String := "chip8vm 0.1.0\n"

/-- The answer to a request for help. -/
def helpText : String := "A CHIP-8 interpreter engine with a terminal host

Usage: chip8vm [OPTIONS] <ROM>

Arguments:
  <ROM>  Path to the program image

Options:
      --ips <IPS>            Instructions executed per second [default: 600]
      --fps <FPS>            Display refresh and keyboard poll rate [default: 60]
      --timer-hz <TIMER_HZ>  Delay and sound timer rate [default: 60]
      --seed <SEED>          Seed for the random number instruction
      --tone <TONE>          Frequency of the tone in Hz [default: 440]
      --disassemble          Print a listing of the program and exit
      --trace                Write every executed instruction to stderr
  -h, --help                 Print help
  -V, --version              Print version
"

namespace Options

/-- The setup of the machine that the options ask for: the `config` of `main`. -/
def setup (o : Options) : Setup :=
  let setup := Setup.ofRates o.instructionRate o.timerRate
  match o.seed with
  | some seed => setup.withSeed seed
  | none => setup

/-- A machine just switched on, with the program loaded. -/
def load (o : Options) (file : ProgramFile) : Except LoadError (Nat × Machine) :=
  (Machine.powerOn o.setup).loadFile o.program file

end Options

/-- Lines with a line feed after each. -/
def unlines (lines : List String) : String := String.join (lines.map (· ++ "\n"))

/-- Does what the options ask for with the file at the program's path: `main` after the arguments
are read. -/
def runOptions (o : Options) (file : ProgramFile) : Outcome :=
  match o.load file with
  | .error e => .finished (.failed (e.report ("could not load " ++ o.program)))
  | .ok (stored, machine) =>
    if o.disassemble then .finished (.printed (unlines (machine.listing stored)))
    else .play o machine

/-- Does what a command line asks for (`main`). -/
def run (words : List String) (fileAt : String → ProgramFile) : Outcome :=
  match parse words with
  | .error e => .finished (.refused e)
  | .ok .version => .finished (.printed versionText)
  | .ok .help => .finished (.printed helpText)
  | .ok (.run o) => runOptions o (fileAt o.program)

theorem run_listing {words : List String} {o : Options} (h : parse words = .ok (.run o))
    (hd : o.disassemble = true) (fileAt : String → ProgramFile) {image : List UInt8}
    (hf : fileAt o.program = .contents image) :
    run words fileAt = .finished (.printed
      (unlines (((Machine.powerOn o.setup).load image).listing
        (Memory.capacityFor image.length)))) := by
  simp [run, h, runOptions, Options.load, hf, hd, Machine.loadFile_contents]

end Chip8.CommandLine
