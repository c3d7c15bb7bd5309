import Chip8.CommandLine.Number
import Chip8.Setup

/-!
# Arguments

What the words of a command line ask for. One word names the program; options set rates, the seed
and the tone, each at most once, with their value after an equals sign or in the next word; two
flags take no value. After the word `--` every word is taken literally.

Words are obeyed from left to right: the first fault ends the reading, and so does a request for the
version or for help.
-/

namespace Chip8.CommandLine

/-- Options that take a value. -/
inductive ValueOption
  | ips
  | fps
  | timerHz
  | seed
  | tone
deriving DecidableEq

/-- Options that do not. -/
inductive Flag
  | disassemble
  | trace
deriving DecidableEq

/-- What is asked of the player: `Args`. -/
structure Options where
  program : String
  instructionRate : UInt32
  frameRate : UInt32
  timerRate : UInt32
  seed : Option UInt64
  tone : Frequency
  disassemble : Bool
  trace : Bool
deriving DecidableEq

/-- What a command line asks for. -/
inductive Request
  | run (options : Options)
  | version
  | help
deriving DecidableEq

/-- What is wrong with a command line. -/
inductive UsageError
  | unknown (word : String)
  | missingValue (option : String)
  | unexpectedValue (option : String) (value : String)
  | repeated (option : String)
  | invalidValue (option : String) (value : String)
  | missingProgram
  | emptyProgram
  | surplus (word : String)
deriving DecidableEq

namespace UsageError

def message : UsageError → String
  | unknown word => "unexpected argument " ++ word
  | missingValue option => "a value is required for " ++ option
  | unexpectedValue option value => "unexpected value " ++ value ++ " for " ++ option
  | repeated option => option ++ " cannot be used more than once"
  | invalidValue option value => "invalid value " ++ value ++ " for " ++ option
  | missingProgram => "the program is missing"
  | emptyProgram => "the program needs a path that is not empty"
  | surplus word => "unexpected argument " ++ word

end UsageError

/-! ## Names -/

def ValueOption.name : ValueOption → String
  | ips => "ips"
  | fps => "fps"
  | timerHz => "timer-hz"
  | seed => "seed"
  | tone => "tone"

def ValueOption.ofName? : String → Option ValueOption
  | "ips" => some ips
  | "fps" => some fps
  | "timer-hz" => some timerHz
  | "seed" => some seed
  | "tone" => some tone
  | _ => none

def Flag.name : Flag → String
  | disassemble => "disassemble"
  | trace => "trace"

def Flag.ofName? : String → Option Flag
  | "disassemble" => some disassemble
  | "trace" => some trace
  | _ => none

/-! ## Options as they are gathered -/

/-- What has been asked for so far. -/
structure Draft where
  program : Option String := none
  ips : Option UInt32 := none
  fps : Option UInt32 := none
  timerHz : Option UInt32 := none
  seed : Option UInt64 := none
  tone : Option Frequency := none
  disassemble : Bool := false
  trace : Bool := false

namespace Draft

/-- The value for an option that has not been given before. -/
def once {α : Type} (option : ValueOption) (earlier : Option α) (value : String)
    (parsed : Option α) : Except UsageError (Option α) :=
  match parsed, earlier with
  | none, _ => .error (.invalidValue option.name value)
  | some _, some _ => .error (.repeated option.name)
  | some v, none => .ok (some v)

def setValue (d : Draft) (option : ValueOption) (value : String) : Except UsageError Draft :=
  match option with
  | .ips => (once option d.ips value (word32? value)).map fun v => { d with ips := v }
  | .fps => (once option d.fps value (word32? value)).map fun v => { d with fps := v }
  | .timerHz => (once option d.timerHz value (word32? value)).map fun v => { d with timerHz := v }
  | .seed => (once option d.seed value (word64? value)).map fun v => { d with seed := v }
  | .tone => (once option d.tone value (frequency? value)).map fun v => { d with tone := v }

def setFlag (d : Draft) : Flag → Except UsageError Draft
  | .disassemble =>
    if d.disassemble then .error (.repeated Flag.disassemble.name)
    else .ok { d with disassemble := true }
  | .trace =>
    if d.trace then .error (.repeated Flag.trace.name) else .ok { d with trace := true }

def setProgram (d : Draft) (word : String) : Except UsageError Draft :=
  match d.program with
  | some _ => .error (.surplus word)
  | none => if word.isEmpty then .error .emptyProgram else .ok { d with program := some word }

/-- The options, with the default values of `Args` for those that were not given. -/
def finish (d : Draft) : Except UsageError Request :=
  match d.program with
  | none => .error .missingProgram
  | some program =>
    .ok <| .run {
      program := program
      instructionRate := d.ips.getD Setup.defaultInstructionRate
      frameRate := d.fps.getD 60
      timerRate := d.timerHz.getD Setup.defaultTimerRate
      seed := d.seed
      tone := d.tone.getD (.decimal false 440 0)
      disassemble := d.disassemble
      trace := d.trace }

end Draft

/-! ## Words -/

/-- What a word of the command line is. -/
inductive Word
  /-- The word `--`. -/
  | terminator
  /-- A word that begins with two dashes: a name, and the value after the first equals sign. -/
  | long (name : String) (value : Option String)
  /-- A word that begins with one dash and has letters after it: the first of them. -/
  | short (letter : Char)
  /-- Any other word. -/
  | literal
deriving DecidableEq

/-- The part of a text before its first equals sign and the part after it, if it has one. -/
def cutAtEquals (cs : List Char) : String × Option String :=
  let name := cs.takeWhile (· ≠ '=')
  match cs.dropWhile (· ≠ '=') with
  | [] => (String.ofList name, none)
  | _ :: value => (String.ofList name, some (String.ofList value))

def Word.ofString (word : String) : Word :=
  match word.toList with
  | ['-', '-'] => .terminator
  | '-' :: '-' :: rest =>
    let (name, value) := cutAtEquals rest
    .long name value
  | '-' :: letter :: _ => .short letter
  | _ => .literal

/-- Whether a word can be the value of the option before it. -/
def canBeValue (word : String) : Bool := Word.ofString word = .literal

/-- Takes every word literally. -/
def parseLiterals : List String → Draft → Except UsageError Request
  | [], d => d.finish
  | word :: rest, d =>
    match d.setProgram word with
    | .error e => .error e
    | .ok d => parseLiterals rest d

/-- Obeys words from left to right. -/
def parseWords : List String → Draft → Except UsageError Request
  | [], d => d.finish
  | word :: rest, d =>
    match Word.ofString word with
    | .terminator => parseLiterals rest d
    | .literal =>
      match d.setProgram word with
      | .error e => .error e
      | .ok d => parseWords rest d
    | .short 'V' => .ok .version
    | .short 'h' => .ok .help
    | .short _ => .error (.unknown word)
    | .long "version" none => .ok .version
    | .long "help" none => .ok .help
    | .long "version" (some value) => .error (.unexpectedValue "version" value)
    | .long "help" (some value) => .error (.unexpectedValue "help" value)
    | .long name value? =>
      match Flag.ofName? name, ValueOption.ofName? name, value? with
      | some _, _, some value => .error (.unexpectedValue name value)
      | some flag, _, none =>
        match d.setFlag flag with
        | .error e => .error e
        | .ok d => parseWords rest d
      | none, some option, some value =>
        match d.setValue option value with
        | .error e => .error e
        | .ok d => parseWords rest d
      | none, some option, none =>
        match rest with
        | [] => .error (.missingValue option.name)
        | value :: rest =>
          if canBeValue value then
            match d.setValue option value with
            | .error e => .error e
            | .ok d => parseWords rest d
          else .error (.missingValue option.name)
      | none, none, _ => .error (.unknown word)

/-- What a command line asks for, or what is wrong with it (the `parse` of `Args`). -/
def parse (words : List String) : Except UsageError Request := parseWords words {}

end Chip8.CommandLine
