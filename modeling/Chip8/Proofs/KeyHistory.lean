import Chip8.Play.Keyboard

/-!
# The keyboard and its events

The keyboard remembers a time for each key, and a few controls. Both follow from the events that it
has taken in: a key is held if its last event has put it down, and if that event is recent where
releases go unreported; and the controls are the presses of their keys, each handed out once.

Results:
* `lastSeen_receive`, `follows_through`: what is remembered of a key is what its last event says.
* `asksFor?_press`: which presses are controls.
* `handedOut_append_controls`: no control is lost, handed out twice, or handed out of turn.
* `lastDown?_withoutControls`: what the keys of the controls do is said of no key of the keypad.
* `keyboard_follows_events`: all of this for every run of polls and drains.
-/

namespace Chip8.Play

/-! ## Events -/

/-- Two characters have a letter as their lower case: the letter and its capital. -/
theorem toLower_eq_iff {c lower upper : Char} (h : upper.toNat + 32 = lower.toNat)
    (hupper : 65 ≤ upper.toNat ∧ upper.toNat ≤ 90) :
    c.toLower = lower ↔ c = lower ∨ c = upper := by
  have hA : 'A'.val.toNat = 65 := rfl
  have hZ : 'Z'.val.toNat = 90 := rfl
  have hshift : ('a'.val - 'A'.val).toNat = 32 := rfl
  have hlow : c.toLower.toNat =
      if 65 ≤ c.toNat ∧ c.toNat ≤ 90 then c.toNat + 32 else c.toNat := by
    unfold Char.toLower
    simp only [Char.toNat, ge_iff_le, UInt32.le_iff_toNat_le, hA, hZ]
    split
    · simp only [UInt32.toNat_add, hshift]
      omega
    · rfl
  rw [← Char.toNat_inj, ← Char.toNat_inj, ← Char.toNat_inj, hlow]
  split <;> omega

namespace Event

/-- The event is about a key of the keypad. -/
def concerns (key : Fin 16) : Event → Bool
  | .key code _ => code.keypad? = some key
  | .other => false

/-- The event is about a key that controls the player. -/
def isOfControl : Event → Bool
  | .key code _ => code.control?.isSome
  | .other => false

/-- The time at which an event that is taken in at `now` leaves its key down, if it does. -/
def downAt? (now : Time) : Event → Option Time
  | .key _ .release => none
  | _ => some now

/-- What the user asks the player for by an event: it takes the press of a control's key. -/
def asksFor? : Event → Option Control
  | .key .escape .press => some .quit
  | .key (.char c) .press =>
    if c = 'p' ∨ c = 'P' then some .pause
    else if c = 'b' ∨ c = 'B' then some .reboot
    else none
  | _ => none

theorem asksFor?_press (code : KeyCode) : (Event.key code .press).asksFor? = code.control? := by
  cases code with
  | escape | other => rfl
  | char c =>
    have hp : c.toLower = 'p' ↔ c = 'p' ∨ c = 'P' := toLower_eq_iff rfl (by decide)
    have hb : c.toLower = 'b' ↔ c = 'b' ∨ c = 'B' := toLower_eq_iff rfl (by decide)
    simp only [asksFor?, KeyCode.control?, ← hp, ← hb]
    split
    · next h => simp [h]
    · next h => split <;> simp_all

theorem asksFor?_of_ne_press {action : KeyAction} (h : action ≠ .press) (code : KeyCode) :
    (Event.key code action).asksFor? = none := by
  cases action with
  | press => exact absurd rfl h
  | again | release => cases code <;> rfl

theorem concerns_of_isOfControl {e : Event} (h : e.isOfControl = true) (key : Fin 16) :
    e.concerns key = false := by
  cases e with
  | other => rfl
  | key code action =>
    obtain ⟨control, hcontrol⟩ := Option.isSome_iff_exists.1 h
    simp [concerns, KeyCode.keypad?_eq_none_of_control? hcontrol]

end Event

/-- When a key was last put down, unless released since, by the events that have been taken in: what
the last event about it says. -/
def lastDown? (key : Fin 16) (taken : List (Time × Event)) : Option Time :=
  (taken.filter fun entry => entry.2.concerns key).getLast?.bind fun entry =>
    entry.2.downAt? entry.1

theorem lastDown?_concat (key : Fin 16) (taken : List (Time × Event)) (now : Time) (e : Event) :
    lastDown? key (taken ++ [(now, e)]) =
      if e.concerns key then e.downAt? now else lastDown? key taken := by
  unfold lastDown?
  rw [List.filter_append]
  cases h : e.concerns key <;> simp [h]

namespace Keyboard

/-! ## One event -/

theorem lastSeen_receive (now : Time) (k : Keyboard) (e : Event) (key : Fin 16) :
    (receive now k e).lastSeen.get key =
      if e.concerns key then e.downAt? now else k.lastSeen.get key := by
  cases e with
  | other => rfl
  | key code action =>
    cases hcontrol : code.control? with
    | some control =>
      have hkey := KeyCode.keypad?_eq_none_of_control? hcontrol
      cases action <;> simp [receive, hcontrol, Event.concerns, hkey]
    | none =>
      cases hkey : code.keypad? with
      | none => simp [receive, hcontrol, Event.concerns, hkey]
      | some j =>
        cases action <;>
          simp [receive, hcontrol, hkey, Event.concerns, Event.downAt?, get_mark, eq_comm]

theorem controls_receive (now : Time) (k : Keyboard) (e : Event) :
    (receive now k e).controls = k.controls ++ e.asksFor?.toList := by
  cases e with
  | other => simp [receive, Event.asksFor?]
  | key code action =>
    cases action with
    | press =>
      rw [Event.asksFor?_press]
      cases hcontrol : code.control? with
      | some control => simp [receive, hcontrol]
      | none => cases hkey : code.keypad? <;> simp [receive, hcontrol, hkey, mark]
    | again | release =>
      rw [Event.asksFor?_of_ne_press (by decide)]
      cases hcontrol : code.control? with
      | some control => simp [receive, hcontrol]
      | none => cases hkey : code.keypad? <;> simp [receive, hcontrol, hkey, mark]

theorem releasesReported_receive (now : Time) (k : Keyboard) (e : Event) :
    (receive now k e).releasesReported = k.releasesReported := by
  unfold receive
  repeat' split
  all_goals rfl

/-! ## A poll -/

/-- The keyboard remembers of each key what the events taken in so far say about it. -/
def Follows (k : Keyboard) (taken : List (Time × Event)) : Prop :=
  ∀ key, k.lastSeen.get key = lastDown? key taken

theorem follows_receive {k : Keyboard} {taken : List (Time × Event)} (h : k.Follows taken)
    (now : Time) (e : Event) : (receive now k e).Follows (taken ++ [(now, e)]) := by
  intro key
  rw [lastSeen_receive, lastDown?_concat, h key]

theorem follows_poll {k : Keyboard} {taken : List (Time × Event)} (h : k.Follows taken)
    (now : Time) (events : List Event) :
    (k.poll now events).2.Follows (taken ++ events.map fun e => (now, e)) := by
  unfold poll
  induction events generalizing k taken with
  | nil => simpa using h
  | cons e rest ih => simpa using ih (follows_receive h now e)

theorem controls_poll (k : Keyboard) (now : Time) (events : List Event) :
    (k.poll now events).2.controls = k.controls ++ events.filterMap Event.asksFor? := by
  unfold poll
  induction events generalizing k with
  | nil => simp
  | cons e rest ih =>
    have hnext := ih (receive now k e)
    rw [controls_receive] at hnext
    cases hasked : e.asksFor? <;> simpa [hasked] using hnext

theorem releasesReported_poll (k : Keyboard) (now : Time) (events : List Event) :
    (k.poll now events).2.releasesReported = k.releasesReported := by
  unfold poll
  induction events generalizing k with
  | nil => rfl
  | cons e rest ih => exact (ih (receive now k e)).trans (releasesReported_receive now k e)

/-- A key is held exactly if its last event has put it down, and recently where releases go
unreported. -/
theorem get_poll_of_follows {k : Keyboard} {taken : List (Time × Event)} (h : k.Follows taken)
    (now : Time) (events : List Event) (key : Fin 16) :
    (k.poll now events).1.get key =
      isHeld (lastDown? key (taken ++ events.map fun e => (now, e))) now k.releasesReported := by
  rw [get_poll, follows_poll h, releasesReported_poll]

/-! ## Runs -/

/-- What is done with a keyboard. -/
inductive Use
  | poll (now : Time) (events : List Event)
  | drain

/-- The events that a use takes in, with the time of the poll. -/
def Use.taken : Use → List (Time × Event)
  | .poll now events => events.map fun e => (now, e)
  | .drain => []

/-- The use as it would be if nobody touched the keys of the controls. -/
def Use.withoutControls : Use → Use
  | .poll now events => .poll now (events.filter fun e => !e.isOfControl)
  | .drain => .drain

/-- The events that some uses take in. -/
def takenIn (uses : List Use) : List (Time × Event) := uses.flatMap Use.taken

def use (k : Keyboard) : Use → Keyboard
  | .poll now events => (k.poll now events).2
  | .drain => k.drain.2

/-- The keyboard after some uses, the earliest one first. -/
def through (k : Keyboard) (uses : List Use) : Keyboard := uses.foldl use k

/-- The controls that some uses hand out, one drain after the other. -/
def handedOut (k : Keyboard) : List Use → List Control
  | [] => []
  | .poll now events :: rest => (k.poll now events).2.handedOut rest
  | .drain :: rest => k.drain.1 ++ k.drain.2.handedOut rest

theorem follows_new (releasesReported : Bool) : (new releasesReported).Follows [] := by
  intro key
  show (Vector.replicate 16 (none : Option Time))[key.val] = none
  simp

theorem follows_use {k : Keyboard} {taken : List (Time × Event)} (h : k.Follows taken)
    (u : Use) : (k.use u).Follows (taken ++ u.taken) := by
  cases u with
  | poll now events => exact follows_poll h now events
  | drain =>
    rw [Use.taken, List.append_nil]
    exact h

theorem follows_through {k : Keyboard} {taken : List (Time × Event)} (h : k.Follows taken)
    (uses : List Use) : (k.through uses).Follows (taken ++ takenIn uses) := by
  induction uses generalizing k taken with
  | nil =>
    rw [takenIn, List.flatMap_nil, List.append_nil]
    exact h
  | cons u rest ih =>
    rw [takenIn, List.flatMap_cons, ← List.append_assoc]
    exact ih (follows_use h u)

theorem releasesReported_through (k : Keyboard) (uses : List Use) :
    (k.through uses).releasesReported = k.releasesReported := by
  induction uses generalizing k with
  | nil => rfl
  | cons u rest ih =>
    have huse : (k.use u).releasesReported = k.releasesReported := by
      cases u with
      | poll now events => exact releasesReported_poll k now events
      | drain => rfl
    exact (ih (k.use u)).trans huse

/-- What has been handed out and what still waits are together what has been asked for, in
order. -/
theorem handedOut_append_controls (k : Keyboard) (uses : List Use) :
    k.handedOut uses ++ (k.through uses).controls =
      k.controls ++ (takenIn uses).filterMap fun entry => entry.2.asksFor? := by
  induction uses generalizing k with
  | nil => simp [handedOut, through, takenIn]
  | cons u rest ih =>
    cases u with
    | poll now events =>
      have hrest := ih (k.poll now events).2
      rw [controls_poll] at hrest
      simpa [handedOut, through, use, takenIn, Use.taken, List.filterMap_map, Function.comp_def]
        using hrest
    | drain =>
      have hrest := ih k.drain.2
      simpa [handedOut, through, use, takenIn, Use.taken, drain] using hrest

/-! ## The keys of the controls -/

theorem takenIn_withoutControls (uses : List Use) :
    takenIn (uses.map Use.withoutControls) =
      (takenIn uses).filter fun entry => !entry.2.isOfControl := by
  induction uses with
  | nil => rfl
  | cons u rest ih =>
    have hfirst : u.withoutControls.taken = u.taken.filter fun entry => !entry.2.isOfControl := by
      cases u with
      | poll now events => simp [Use.withoutControls, Use.taken, List.filter_map, Function.comp_def]
      | drain => rfl
    simp only [takenIn, List.map_cons, List.flatMap_cons, List.filter_append] at ih ⊢
    rw [hfirst, ih]

theorem lastDown?_withoutControls (key : Fin 16) (uses : List Use) :
    lastDown? key (takenIn (uses.map Use.withoutControls)) = lastDown? key (takenIn uses) := by
  have hconcerns : ∀ entry ∈ takenIn uses,
      (entry.2.concerns key && !entry.2.isOfControl) = entry.2.concerns key := by
    intro entry _
    cases h : entry.2.isOfControl with
    | true => rw [Event.concerns_of_isOfControl h]; rfl
    | false => simp
  rw [takenIn_withoutControls, lastDown?, lastDown?, List.filter_filter,
    List.filter_congr hconcerns]

/-! ## The law -/

theorem isHeld_lastDown?_iff (key : Fin 16) (taken : List (Time × Event)) (now : Time)
    (releasesReported : Bool) :
    isHeld (lastDown? key taken) now releasesReported = true ↔
      ∃ seen code action,
        (taken.filter fun entry => entry.2.concerns key).getLast? = some (seen, .key code action) ∧
        action ≠ .release ∧ (releasesReported = true ∨ now < seen + holdTime) := by
  have hrecent (a b c : Nat) (hc : 0 < c) : a - b < c ↔ a < b + c := by omega
  unfold lastDown?
  cases hlast : (taken.filter fun entry => entry.2.concerns key).getLast? with
  | none => simp [isHeld]
  | some entry =>
    obtain ⟨seen, e⟩ := entry
    cases e with
    | other => cases (List.mem_filter.1 (List.mem_of_getLast? hlast)).2
    | key code action =>
      cases action with
      | release => simp [isHeld, Event.downAt?]
      | press | again =>
        simp only [Option.bind_some, Event.downAt?, isHeld, Bool.or_eq_true, decide_eq_true_eq,
          hrecent now seen holdTime (by decide)]
        constructor
        · exact fun h => ⟨seen, code, _, rfl, by decide, h⟩
        · rintro ⟨_, _, _, hsame, -, h⟩
          cases hsame
          exact h

/-- What a keyboard tells follows from the events that it has taken in. A key is down in a poll
exactly if the last event about it has put it down, and no longer ago than keys are held where
releases go unreported. What has been drained and what still waits are together the presses of the
keys for quitting, pausing and rebooting, in order. And nothing that is done to those keys makes a
difference to a key of the keypad. -/
theorem keyboard_follows_events (releasesReported : Bool) (uses : List Use) :
    let k := (new releasesReported).through uses
    (∀ now events key,
      (k.poll now events).1.get key = true ↔
        ∃ seen code action,
          ((takenIn (uses ++ [.poll now events])).filter fun entry =>
            entry.2.concerns key).getLast? = some (seen, .key code action) ∧
          action ≠ .release ∧ (releasesReported = true ∨ now < seen + holdTime)) ∧
    (new releasesReported).handedOut uses ++ k.controls =
      (takenIn uses).filterMap (fun entry => entry.2.asksFor?) ∧
    ∀ now events key,
      (((new releasesReported).through (uses.map Use.withoutControls)).poll now
        (events.filter fun e => !e.isOfControl)).1.get key = (k.poll now events).1.get key := by
  intro k
  have hreported (uses : List Use) (now : Time) (events : List Event) (key : Fin 16) :
      (((new releasesReported).through uses).poll now events).1.get key =
        isHeld (lastDown? key (takenIn (uses ++ [.poll now events]))) now releasesReported := by
    have hfollows := follows_through (follows_new releasesReported) uses
    rw [get_poll_of_follows hfollows, releasesReported_through]
    simp [takenIn, Use.taken, new]
  refine ⟨?_, ?_, ?_⟩
  · intro now events key
    rw [hreported, isHeld_lastDown?_iff]
  · exact handedOut_append_controls (new releasesReported) uses
  · intro now events key
    have hwithout := lastDown?_withoutControls key (uses ++ [.poll now events])
    rw [List.map_append] at hwithout
    rw [hreported, hreported, ← hwithout]
    rfl

end Keyboard

end Chip8.Play
