import Chip8.Machine
import Chip8.Report

/-!
# Program files

Loading a program from a file, and starting over with it. What the file system has at a path is
given as a value, so that loading is a function.

Results:
* `loadFile_contents`: what the load of a readable file comes to.
* `reboot_machine`: whatever the file, a reboot starts from the state of power-on.
-/

namespace Chip8

/-- What is found at a path. -/
inductive ProgramFile
  /-- No regular file: nothing, a directory or a device. -/
  | missing
  /-- A regular file that cannot be read, and why. -/
  | unreadable (reason : String)
  | contents (image : List UInt8)
deriving DecidableEq

/-- Why a program was not loaded: `Chip8Error`. -/
inductive LoadError
  | notFound (path : String)
  | unreadable (path : String) (reason : String)
deriving DecidableEq

namespace LoadError

def message : LoadError → String
  | notFound path => "program file not found: " ++ path
  | unreadable path _ => "failed to read program file " ++ path

/-- The error's message and the messages of what caused it. -/
def chain : LoadError → List String
  | e@(notFound _) => [e.message]
  | e@(unreadable _ reason) => [e.message, reason]

/-- The error as the cause of something that failed because of it. -/
def report (e : LoadError) (message : String) : Report := { message := message, causes := e.chain }

end LoadError

namespace ProgramFile

/-- The bytes of the file, if there are any to be had. -/
def image (path : String) : ProgramFile → Except LoadError (List UInt8)
  | missing => .error (.notFound path)
  | unreadable reason => .error (.unreadable path reason)
  | contents image => .ok image

/-- Whether there are bytes to be had. -/
def isReadable : ProgramFile → Bool
  | contents _ => true
  | missing | unreadable _ => false

end ProgramFile

namespace Machine

/-- Puts the file's bytes at the program start and tells how many fitted (`load_program`). -/
def loadFile (m : Machine) (path : String) (file : ProgramFile) :
    Except LoadError (Nat × Machine) :=
  match file.image path with
  | .ok image => .ok (Memory.capacityFor image.length, m.load image)
  | .error e => .error e

/-- Starts over with the program at `path` (`reboot`). When it cannot be loaded the machine is left
as after power-on. -/
def reboot (m : Machine) (path : String) (file : ProgramFile) : Machine × Except LoadError Nat :=
  match m.reset.loadFile path file with
  | .ok (stored, loaded) => (loaded, .ok stored)
  | .error e => (m.reset, .error e)

/-- The report of a failed reboot. -/
def rebootReport (path : String) (e : LoadError) : Report := e.report ("could not reload " ++ path)

theorem loadFile_contents (m : Machine) (path : String) (image : List UInt8) :
    m.loadFile path (.contents image) = .ok (Memory.capacityFor image.length, m.load image) := rfl

theorem reboot_machine (m : Machine) (path : String) (file : ProgramFile) :
    (m.reboot path file).1 =
      match file with
      | .contents image => (powerOn m.setup).load image
      | _ => powerOn m.setup := by
  cases file <;> rfl

end Machine

end Chip8
