import Chip8.Play.Keyboard
import Chip8.Terminal.Inbox
import Chip8.Terminal.View

/-!
# The user's desk

The screen and the keyboard that the player has to do with, and what the terminal behind them has
reported but nobody has read.
-/

namespace Chip8.Play

open Terminal (Cell Grid Inbox Source View)

/-- A `TerminalDisplay` and a `Keyboard` on one terminal. -/
structure Desk where
  view : View
  keyboard : Keyboard
  inbox : Inbox Event
  now : Time

namespace Desk

/-- A blank terminal at time 0, no key of which is down. -/
def new (width height : Nat) (title : String) (releasesReported : Bool) : Desk :=
  { view := View.new width height title, keyboard := Keyboard.new releasesReported, inbox := {}
    now := 0 }

/-- The terminal is given a size. It reports this only if it had another one before. -/
def resize (d : Desk) (width height : Nat) : Desk :=
  let same := d.view.surface.width = width ∧ d.view.surface.height = height
  { d with
    view := d.view.resize width height
    inbox := if same then d.inbox else d.inbox.resize }

/-- Asks the terminal what it shows. -/
def look (d : Desk) : Grid Cell × Desk :=
  (d.view.surface.shown, { d with inbox := d.inbox.answer })

/-- Time passes. -/
def wait (d : Desk) (time : Time) : Desk := { d with now := d.now + time }

/-- Events arrive and the keyboard is polled: which keys are down (`poll_keys`), and what controls
were pressed (`drain_controls`). -/
def poll (d : Desk) (arrived : List Event) : Vector Bool 16 × List Control × Desk :=
  let read := d.inbox.read arrived
  let polled := d.keyboard.poll d.now read.1
  let drained := polled.2.drain
  (polled.1, drained.1, { d with keyboard := drained.2, inbox := read.2 })

end Desk

end Chip8.Play
