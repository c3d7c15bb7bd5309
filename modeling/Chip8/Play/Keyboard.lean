import Chip8.Play.Key

/-!
# Which keys are held

Terminals report presses and repeats, and some of them also releases. Where they do, a key is held
until it is released; where they do not, it is held for a short while after its last report.

Results:
* `get_poll`: a key is down in a poll exactly if it is held at that time.
-/

namespace Chip8.Play

/-- Times are nanoseconds since some common beginning. -/
abbrev Time := Nat

/-- How long a key counts as held after its last report, where no releases are reported: the 120
milliseconds of `KEY_HOLD`. -/
def holdTime : Time := 120000000

/-- Whether a key that was last reported at `seen` is held at `now` (`is_held`). Time that runs
backwards counts as standing still. -/
def isHeld (seen : Option Time) (now : Time) (releasesReported : Bool) : Bool :=
  match seen with
  | none => false
  | some seen => releasesReported || now - seen < holdTime

/-- What is remembered of the keys, and the controls that nobody has asked for yet: `Keyboard`. -/
structure Keyboard where
  /-- For each key of the keypad when it was last reported down, unless released since. -/
  lastSeen : Vector (Option Time) 16
  releasesReported : Bool
  /-- The oldest control first. -/
  controls : List Control
deriving DecidableEq

namespace Keyboard

def new (releasesReported : Bool) : Keyboard :=
  { lastSeen := Vector.replicate 16 none, releasesReported := releasesReported, controls := [] }

/-- Remembers when a key was last reported down. -/
def mark (k : Keyboard) (key : Fin 16) (seen : Option Time) : Keyboard :=
  { k with lastSeen := Vector.ofFn fun j => if j = key then seen else k.lastSeen.get j }

/-- Takes in one event that is noticed at `now`: one pass of the loop in `poll_keys`. A key that
controls the player acts when pressed and never reaches the keypad. -/
def receive (now : Time) (k : Keyboard) : Event → Keyboard
  | .other => k
  | .key code action =>
    match code.control? with
    | some control =>
      match action with
      | .press => { k with controls := k.controls ++ [control] }
      | _ => k
    | none =>
      match code.keypad? with
      | none => k
      | some key =>
        match action with
        | .release => k.mark key none
        | _ => k.mark key (some now)

/-- Which keys are down at `now`. -/
def held (k : Keyboard) (now : Time) : Vector Bool 16 :=
  k.lastSeen.map fun seen => isHeld seen now k.releasesReported

/-- Takes in the events that have arrived by `now` and tells which keys are down (`poll_keys`). -/
def poll (k : Keyboard) (now : Time) (events : List Event) : Vector Bool 16 × Keyboard :=
  let k := events.foldl (receive now) k
  (k.held now, k)

/-- Hands out the waiting controls (`drain_controls`). -/
def drain (k : Keyboard) : List Control × Keyboard := (k.controls, { k with controls := [] })

theorem get_mark (k : Keyboard) (key j : Fin 16) (seen : Option Time) :
    (k.mark key seen).lastSeen.get j = if j = key then seen else k.lastSeen.get j := by
  show (k.mark key seen).lastSeen[j.val] = _
  simp [mark]

theorem get_poll (k : Keyboard) (now : Time) (events : List Event) (key : Fin 16) :
    (k.poll now events).1.get key =
      isHeld ((k.poll now events).2.lastSeen.get key) now
        (k.poll now events).2.releasesReported := by
  show (k.poll now events).1[key.val] = isHeld ((k.poll now events).2.lastSeen[key.val]) now _
  simp [poll, held]

end Keyboard

end Chip8.Play
